import CardEffects.Proofs.Developments

/-!
# Transcripts

A transcript of a run says what was fired, which subscriptions were called for it on which boards,
and what those calls fired in turn. It is kept by the run itself: a watched game pairs the programs'
own state with a transcript, and a watched program writes into it beside all that it does anyway.
-/

namespace CardEffects.Proofs

/-- A call of a subscription, with what was fired while it ran. -/
structure Call (φ : Type) where
  entry : ListenerId × Listener
  args : Payload
  before : Board
  fired : List φ
  result : Except Fault Unit
  after : Board

/-- An occurrence that was fired, with the calls that its own pass made. -/
structure Fired where
  surface : EntityId
  event : String
  args : Payload
  start : Board
  calls : List (Call Fired)
  result : Except Fault Unit
  finish : Board

/-- Whether an occurrence is among those that were fired, at any depth. -/
inductive Happens (f : Fired) : List Fired → Prop where
  | here {fired : List Fired} : f ∈ fired → Happens f fired
  | during {fired : List Fired} {g : Fired} {c : Call Fired} :
    g ∈ fired → c ∈ g.calls → Happens f c.fired → Happens f fired

/-- What a run has come to so far. -/
structure Transcript where
  /-- The occurrences that were fired, without those that their calls fired. -/
  fired : List Fired := []
  /-- The boards before and after each operation of a program. -/
  operations : List (Board × Board) := []
  /-- The boards at the beginning and end of each firing and of each call and at the end of each
  operation of a program, at any depth, in the order of time. -/
  moments : List Board := []

namespace Transcript

def mark (t : Transcript) (b : Board) : Transcript :=
  { t with moments := t.moments ++ [b] }

def operate (t : Transcript) (b b' : Board) : Transcript :=
  { t.mark b' with operations := t.operations ++ [(b, b')] }

def fire (t : Transcript) (f : Fired) : Transcript :=
  { t.mark f.finish with fired := t.fired ++ [f] }

end Transcript

/-- The state of the programs of a watched game. -/
abbrev Watched (σ : Type) : Type :=
  σ × Transcript

section Watching

variable {σ : Type}

def write (f : Board → Transcript → Transcript) : GameM (Watched σ) Unit :=
  modify fun game => { game with host := (game.host.1, f game.board game.host.2) }

/-- Go on with a program after an operation that was begun on a board has been written down. -/
def operated (before : Board) (program : Program (Watched σ)) : Program (Watched σ) :=
  .look fun after => .note (fun host => (host.1, host.2.operate before after)) fun _ => program

/-- The program that does what a program does and writes its operations down. -/
def watch : Program σ → Program (Watched σ)
  | .finish result => .finish result
  | .look next => .look fun board => watch (next board)
  | .note update next =>
    .note (fun host => (update host.1, host.2)) fun host => watch (next host.1)
  | .perform operation next => .look fun before =>
    .perform operation fun result => operated before (watch (next result))
  | .subscribe surface event body next => .look fun before =>
    .subscribe surface event (fun args => watch (body args)) fun result =>
      operated before (watch (next result))
  | .subscribeEvent event target body next => .look fun before =>
    .subscribeEvent event target (fun args => watch (body args)) fun result =>
      operated before (watch (next result))

/-- A game whose programs write a transcript, which has come to `t`. -/
def withTranscript (game : Game σ) (t : Transcript) : Game (Watched σ) where
  board := game.board
  scripts := game.scripts.map fun entry => (entry.1, fun args => watch (entry.2 args))
  host := (game.host, t)

lemma board_withTranscript (game : Game σ) (t : Transcript) :
    (withTranscript game t).board = game.board := rfl

/-- Call a subscription and say what came of it. -/
def watchedCall (fire : Firing (Watched σ)) (entry : ListenerId × Listener) (args : Payload) :
    GameM (Watched σ) (Call Fired) := do
  let start ← get
  write fun board t => { t.mark board with fired := [] }
  let result ← attempt (Game.call fire entry.1 entry.2 args)
  let finish ← get
  write fun board t => { t.mark board with fired := start.host.2.fired }
  return { entry, args, before := start.board, fired := finish.host.2.fired, result,
           after := finish.board }

def watchedCallEach (fire : Firing (Watched σ)) (surface : EntityId) (event : String)
    (args : Payload) : List (ListenerId × Listener) →
    GameM (Watched σ) (List (Call Fired) × Except Fault Unit)
  | [] => return ([], .ok ())
  | entry :: rest => do
    if (← get).board.isBound surface event entry.1 then
      let call ← watchedCall fire entry args
      match call.result with
      | .ok _ =>
        let answer ← watchedCallEach fire surface event args rest
        return (call :: answer.1, answer.2)
      | .error fault => return ([call], .error fault)
    else
      watchedCallEach fire surface event args rest

def watchedPass (fire : Firing (Watched σ)) (surface : EntityId) (event : String)
    (args : Payload) : GameM (Watched σ) (List (Call Fired) × Except Fault Unit) := do
  let character ← onBoard (Board.character surface)
  match character.listeners.listFor event with
  | [] => return ([], .ok ())
  | list =>
    onBoard (Game.enter surface event)
    let answer ← watchedCallEach fire surface event args list
    onBoard Game.leave
    return answer

/-- The calls and the result of a pass. A pass that faults was refused and made no calls. -/
def answered (pass : GameM (Watched σ) (List (Call Fired) × Except Fault Unit)) :
    GameM (Watched σ) (List (Call Fired) × Except Fault Unit) := do
  match ← attempt pass with
  | .ok answer => return answer
  | .error fault => return ([], .error fault)

/-- Fire an occurrence by means of a pass, and write it down. -/
def watchedBy (surface : EntityId) (event : String) (args : Payload)
    (pass : GameM (Watched σ) (List (Call Fired) × Except Fault Unit)) :
    GameM (Watched σ) Unit := do
  let start := (← get).board
  write fun board t => t.mark board
  let answer ← answered pass
  write fun finish t =>
    t.fire { surface, event, args, start, calls := answer.1, result := answer.2, finish }
  settle answer.2

def watchedFireWithin : (budget : Nat) → Firing (Watched σ)
  | 0 => fun surface event args => watchedBy surface event args do
    onBoard (Game.refuseReentry surface event)
    throw (.depthExceeded (← get).board.settings.maxDispatchDepth)
  | budget + 1 => fun surface event args => watchedBy surface event args do
    onBoard (Game.refuseReentry surface event)
    watchedPass (watchedFireWithin budget) surface event args

def watchedFire : Firing (Watched σ) := fun surface event args => do
  watchedFireWithin (← get).budget surface event args

def transcript (program : Program σ) (game : Game σ) : Transcript :=
  (leftBy (Game.run watchedFire (watch program)) (withTranscript game {})).host.2

/-- The boards of a run, in the order of time: the first, the moments between, and the last. -/
def boards (program : Program σ) (game : Game σ) : List Board :=
  game.board :: (transcript program game).moments ++ [(leftBy (Game.execute program) game).board]

end Watching

/-! ### What a transcript says -/

/-- The fault with which an occurrence is refused on a board, if it is. -/
def refusal? (b : Board) (surface : EntityId) (event : String) : Option Fault :=
  if b.dispatching.contains (surface, event) then some (.reentrantDispatch surface event)
  else if b.settings.maxDispatchDepth ≤ b.dispatching.length then
    some (.depthExceeded b.settings.maxDispatchDepth)
  else if b.contains surface then none
  else some (.unknownEntity surface)

lemma refusal?_eq_none_iff {b : Board} {surface : EntityId} {event : String} :
    refusal? b surface event = none ↔ (surface, event) ∉ b.dispatching ∧
      b.dispatching.length < b.settings.maxDispatchDepth ∧ b.contains surface = true := by
  by_cases hunder : (surface, event) ∈ b.dispatching
  · simp [refusal?, hunder]
  · by_cases hdeep : b.settings.maxDispatchDepth ≤ b.dispatching.length
    · simp [refusal?, hunder, hdeep]
    · cases hplay : b.contains surface <;> simp [refusal?, hunder, hdeep, hplay]
      omega

/-- The board when an occurrence has come under way. -/
def entered (b : Board) (surface : EntityId) (event : String) : Board :=
  { b with dispatching := (surface, event) :: b.dispatching }

/-- The calls of a pass over listed subscriptions, from one board to another: each subscription that
is in force when its turn comes is called, until a call fails. -/
inductive Answers (surface : EntityId) (event : String) (args : Payload) :
    Board → List (ListenerId × Listener) → List (Call Fired) → Except Fault Unit → Board → Prop where
  | done (b : Board) : Answers surface event args b [] [] (.ok ()) b
  | skip {b b' : Board} {entry : ListenerId × Listener} {rest : List (ListenerId × Listener)}
    {calls : List (Call Fired)} {result : Except Fault Unit} :
    b.isBound surface event entry.1 = false → Answers surface event args b rest calls result b' →
      Answers surface event args b (entry :: rest) calls result b'
  | call {c : Call Fired} {b' : Board} {rest : List (ListenerId × Listener)}
    {calls : List (Call Fired)} {result : Except Fault Unit} :
    c.before.isBound surface event c.entry.1 = true → c.args = args → c.result = .ok () →
      Answers surface event args c.after rest calls result b' →
      Answers surface event args c.before (c.entry :: rest) (c :: calls) result b'
  | fault {c : Call Fired} {rest : List (ListenerId × Listener)} {fault : Fault} :
    c.before.isBound surface event c.entry.1 = true → c.args = args → c.result = .error fault →
      Answers surface event args c.before (c.entry :: rest) [c] (.error fault) c.after

/-- What every call keeps: the occurrences under way are the same after it as before, and they are
the surroundings of all that it fires. -/
structure Call.InOrder (c : Call Fired) : Prop where
  develops : Develops c.before c.after
  dispatching_eq : c.after.dispatching = c.before.dispatching
  fired : ∀ f ∈ c.fired, Develops c.before f.start ∧ f.start.dispatching = c.before.dispatching

/-- Whether a firing was refused for a reason or answered by the calls that were due. -/
inductive Fired.InOrder (f : Fired) : Prop where
  | refused (fault : Fault) (hrefusal : refusal? f.start f.surface f.event = some fault)
    (hcalls : f.calls = []) (hresult : f.result = .error fault) (hfinish : f.finish = f.start)
  | answered (last : Board) (hrefusal : refusal? f.start f.surface f.event = none)
    (hanswers : Answers f.surface f.event f.args (entered f.start f.surface f.event)
      (listenersAt f.start f.surface f.event) f.calls f.result last)
    (hfinish : f.finish = { last with dispatching := f.start.dispatching })
    (hcalls : ∀ c ∈ f.calls, c.InOrder)

/-- Whether no occurrence is under way twice and no more of them are than the settings allow. -/
def StackFits (b : Board) : Prop :=
  b.dispatching.Nodup ∧ b.dispatching.length ≤ b.settings.maxDispatchDepth

/-- Whether `n` more occurrences may come under way. -/
structure Room (n : Nat) (b : Board) : Prop where
  nodup : b.dispatching.Nodup
  length_eq : b.dispatching.length + n = b.settings.maxDispatchDepth

lemma Room.fits {n : Nat} {b : Board} (h : Room n b) : StackFits b :=
  ⟨h.nodup, by have := h.length_eq; omega⟩

/-- One transcript continues another while one board becomes another. -/
structure Continues (b : Board) (t : Transcript) (b' : Board) (t' : Transcript) : Prop where
  develops : Develops b b'
  settings_eq : b'.settings = b.settings
  dispatching_eq : b'.dispatching = b.dispatching
  fired : ∃ fired, t'.fired = t.fired ++ fired ∧
    (∀ f ∈ fired, Develops b f.start ∧ f.start.dispatching = b.dispatching) ∧
    ∀ f, Happens f fired → f.InOrder
  operations : ∃ operations, t'.operations = t.operations ++ operations ∧
    ∀ o ∈ operations, o.2.dispatching = o.1.dispatching
  moments : ∃ moments, t'.moments = t.moments ++ moments ∧ moments.Pairwise Develops ∧
    ∀ m ∈ moments, Develops b m ∧ Develops m b' ∧ StackFits m

lemma not_happens_nil {f : Fired} : ¬Happens f [] := by
  rintro (hmem | ⟨hmem, -, -⟩)
  · cases hmem
  · cases hmem

lemma Happens.append {f : Fired} {fired fired' : List Fired} (h : Happens f (fired ++ fired')) :
    Happens f fired ∨ Happens f fired' := by
  cases h with
  | here hmem => exact (List.mem_append.mp hmem).imp .here .here
  | during hmem hcall hinner =>
    exact (List.mem_append.mp hmem).imp (.during · hcall hinner) (.during · hcall hinner)

lemma Happens.inside {f g : Fired} {fired : List Fired} {c : Call Fired} (h : Happens f fired)
    (hc : c ∈ f.calls) (hg : Happens g c.fired) : Happens g fired := by
  induction h with
  | here hmem => exact .during hmem hc hg
  | during hmem hcall _ ih => exact .during hmem hcall ih

section Continues

variable {b b' b'' : Board} {t t' t'' : Transcript}

lemma Develops.continues (h : Develops b b') (hsettings : b'.settings = b.settings)
    (hstack : b'.dispatching = b.dispatching) (t : Transcript) : Continues b t b' t where
  develops := h
  settings_eq := hsettings
  dispatching_eq := hstack
  fired := ⟨[], by simp, by simp, fun _ h => (not_happens_nil h).elim⟩
  operations := ⟨[], by simp, by simp⟩
  moments := ⟨[], by simp, .nil, by simp⟩

lemma Works.continues (h : Works b b') (t : Transcript) : Continues b t b' t :=
  h.develops.continues (congrArg Prod.fst h.course_eq) (congrArg (·.2.1) h.course_eq) t

lemma Continues.refl (b : Board) (t : Transcript) : Continues b t b t :=
  Develops.continues .refl rfl rfl t

lemma Continues.trans (h : Continues b t b' t') (h' : Continues b' t' b'' t'') :
    Continues b t b'' t'' where
  develops := Trans.trans h.develops h'.develops
  settings_eq := h'.settings_eq.trans h.settings_eq
  dispatching_eq := h'.dispatching_eq.trans h.dispatching_eq
  fired := by
    obtain ⟨fired, hfired, hstart, horder⟩ := h.fired
    obtain ⟨fired', hfired', hstart', horder'⟩ := h'.fired
    refine ⟨fired ++ fired', by rw [hfired', hfired, List.append_assoc], fun f hf => ?_,
      fun f hf => hf.append.elim (horder f) (horder' f)⟩
    rcases List.mem_append.mp hf with hf | hf
    · exact hstart f hf
    · obtain ⟨hdev, hstack⟩ := hstart' f hf
      exact ⟨Trans.trans h.develops hdev, hstack.trans h.dispatching_eq⟩
  operations := by
    obtain ⟨ops, hops, hsame⟩ := h.operations
    obtain ⟨ops', hops', hsame'⟩ := h'.operations
    refine ⟨ops ++ ops', by rw [hops', hops, List.append_assoc], fun o ho => ?_⟩
    exact (List.mem_append.mp ho).elim (hsame o) (hsame' o)
  moments := by
    obtain ⟨ms, hms, hpair, hall⟩ := h.moments
    obtain ⟨ms', hms', hpair', hall'⟩ := h'.moments
    refine ⟨ms ++ ms', by rw [hms', hms, List.append_assoc], ?_, fun m hm => ?_⟩
    · refine List.pairwise_append.mpr ⟨hpair, hpair', fun m hm m' hm' => ?_⟩
      exact Trans.trans (hall m hm).2.1 (hall' m' hm').1
    · rcases List.mem_append.mp hm with hm | hm
      · obtain ⟨hfrom, hto, hfits⟩ := hall m hm
        exact ⟨hfrom, Trans.trans hto h'.develops, hfits⟩
      · obtain ⟨hfrom, hto, hfits⟩ := hall' m hm
        exact ⟨Trans.trans h.develops hfrom, hto, hfits⟩

lemma Continues.mark (b : Board) (t : Transcript) (h : StackFits b) :
    Continues b t b (t.mark b) where
  develops := .refl
  settings_eq := rfl
  dispatching_eq := rfl
  fired := (Continues.refl b t).fired
  operations := (Continues.refl b t).operations
  moments := ⟨[b], rfl, List.pairwise_singleton _ _, fun m hm => by
    rw [List.mem_singleton.mp hm]
    exact ⟨.refl, .refl, h⟩⟩

lemma Continues.operate (t : Transcript) (h : b'.dispatching = b.dispatching)
    (hfits : StackFits b') : Continues b' t b' (t.operate b b') where
  develops := .refl
  settings_eq := rfl
  dispatching_eq := rfl
  fired := (Continues.refl b' t).fired
  operations := ⟨[(b, b')], rfl, fun o ho => by
    rw [List.mem_singleton.mp ho]
    exact h⟩
  moments := (Continues.mark b' t hfits).moments

lemma Continues.inner (h : Continues b { t with fired := [] } b' t') :
    Continues b t b' { t' with fired := t.fired } where
  develops := h.develops
  settings_eq := h.settings_eq
  dispatching_eq := h.dispatching_eq
  fired := ⟨[], by simp, by simp, fun _ h => (not_happens_nil h).elim⟩
  operations := h.operations
  moments := h.moments

lemma Continues.room {n : Nat} (h : Continues b t b' t') (hroom : Room n b) : Room n b' where
  nodup := by
    rw [h.dispatching_eq]
    exact hroom.nodup
  length_eq := by
    rw [h.dispatching_eq, h.settings_eq]
    exact hroom.length_eq

end Continues

end CardEffects.Proofs
