import CardEffects.Proofs.Runs
import CardEffects.Proofs.Transcripts

/-!
# Watched programs

A watched program does to a game what the program does, and its transcript grows in order. This
holds of every operation as soon as it holds of the firings that operations are made with.
-/

namespace CardEffects.Proofs

/-! ### Watched operations -/

variable {σ α β : Type}

/-- The outcome of an operation on a game whose programs write a transcript. -/
def transcribed (t : Transcript) :
    EStateM.Result Fault (Game σ) α → EStateM.Result Fault (Game (Watched σ)) α
  | .ok a game => .ok a (withTranscript game t)
  | .error fault game => .error fault (withTranscript game t)

/-- Whether one operation does what another does and writes a transcript of it. -/
def Tracks (n : Nat) (x : GameM σ α) (x' : GameM (Watched σ) α) : Prop :=
  ∀ game t, Room n game.board → ∃ t', x' (withTranscript game t) = transcribed t' (x game) ∧
    Continues game.board t (leftBy x game).board t'

section Combinators

variable {n : Nat}

lemma tracks_pure (a : α) : Tracks n (pure a : GameM σ α) (pure a) :=
  fun game t _ => ⟨t, rfl, Continues.refl game.board t⟩

lemma tracks_throw (fault : Fault) : Tracks n (throw fault : GameM σ α) (throw fault) :=
  fun game t _ => ⟨t, rfl, Continues.refl game.board t⟩

lemma tracks_settle (result : Except Fault α) :
    Tracks n (settle result : GameM σ α) (settle result) := by
  cases result with
  | ok a => exact tracks_pure a
  | error fault => exact tracks_throw fault

lemma Tracks.bind {x : GameM σ α} {x' : GameM (Watched σ) α} {f : α → GameM σ β}
    {f' : α → GameM (Watched σ) β} (hx : Tracks n x x') (hf : ∀ a, Tracks n (f a) (f' a)) :
    Tracks n (x >>= f) (x' >>= f') := by
  intro game t hroom
  obtain ⟨t₁, hrun', hfirst⟩ := hx game t hroom
  cases hrun : x game with
  | error fault game₁ =>
    have hleft : leftBy (x >>= f) game = leftBy x game := by simp [leftBy, hrun]
    refine ⟨t₁, ?_, hleft ▸ hfirst⟩
    rw [bind_run, bind_run, hrun', hrun]
    rfl
  | ok a game₁ =>
    have hleft : leftBy (x >>= f) game = leftBy (f a) game₁ := by simp [leftBy, hrun]
    rw [leftBy_of_ok hrun] at hfirst
    obtain ⟨t₂, hrest', hrest⟩ := hf a game₁ t₁ (hfirst.room hroom)
    refine ⟨t₂, ?_, hleft ▸ hfirst.trans hrest⟩
    rw [bind_run, bind_run, hrun', hrun]
    exact hrest'

lemma Tracks.attempt {x : GameM σ α} {x' : GameM (Watched σ) α} (hx : Tracks n x x') :
    Tracks n (attempt x) (attempt x') := by
  intro game t hroom
  obtain ⟨t', hrun', hcont⟩ := hx game t hroom
  refine ⟨t', ?_, (leftBy_attempt x game).symm ▸ hcont⟩
  unfold CardEffects.attempt
  rw [hrun']
  cases x game <;> rfl

lemma tracks_get {f : Game σ → GameM σ α} {f' : Game (Watched σ) → GameM (Watched σ) α}
    (h : ∀ game t, Tracks n (f game) (f' (withTranscript game t))) :
    Tracks n (get >>= f) (get >>= f') :=
  fun game t hroom => h game t game t hroom

lemma tracks_onBoard {operation : BoardM α} (h : Within Works operation) :
    Tracks n (onBoard operation : GameM σ α) (onBoard operation) := by
  intro game t _
  have hworks := h game.board
  refine ⟨t, ?_, ?_⟩
  · unfold onBoard
    rw [board_withTranscript]
    cases operation game.board <;> rfl
  · have hleft : (leftBy (onBoard operation) game).board = leftBy operation game.board := by
      unfold leftBy onBoard
      cases operation game.board <;> rfl
    rw [hleft]
    exact hworks.continues t

lemma tracks_passTurn :
    Tracks n
      (modify fun game => { game with board := { game.board with
        activePlayer := game.board.activePlayer.next game.board.playerCount
        turn := game.board.turn + 1 } } : GameM σ Unit)
      (modify fun game => { game with board := { game.board with
        activePlayer := game.board.activePlayer.next game.board.playerCount
        turn := game.board.turn + 1 } }) :=
  fun game t _ => ⟨t, rfl,
    (develops_of_move .passTurn trivial game.board).continues rfl rfl t⟩

end Combinators

/-! ### Watched programs -/

section Programs

variable {n : Nat} {fire : Firing σ} {fire' : Firing (Watched σ)}
  (hfire : ∀ surface event args, Tracks n (fire surface event args) (fire' surface event args))

include hfire

lemma tracks_dealDamage (source : Option EntityId) (target : EntityId) (amount : Amount) :
    Tracks n (Game.dealDamage fire source target amount)
      (Game.dealDamage fire' source target amount) := by
  refine (tracks_onBoard (within_updateStat _ _ _)).bind fun _ => (hfire _ _ _).bind fun _ =>
    tracks_get fun game t => ?_
  simp only [board_withTranscript]
  cases game.board.controller? target with
  | some player => exact hfire _ _ _
  | none => exact tracks_pure _

lemma tracks_act (action : Action) (target : EntityId) :
    Tracks n (Game.act fire action target) (Game.act fire' action target) := by
  cases action with
  | change change => exact tracks_onBoard (within_make change target)
  | damage amount => exact tracks_dealDamage hfire none target amount
  | heal amount => exact tracks_onBoard (within_heal target amount)

lemma tracks_summon (player : PlayerId) (spot : Option Nat) (name : String)
    (attack health : Amount) :
    Tracks n (Game.summon fire player spot name attack health)
      (Game.summon fire' player spot name attack health) :=
  (tracks_onBoard (within_placeMinion _ _ _ _ _)).bind fun _ => (hfire _ _ _).bind fun _ =>
    tracks_pure _

lemma tracks_endTurn : Tracks n (Game.endTurn fire) (Game.endTurn fire') :=
  tracks_get fun _ _ => (hfire _ _ _).bind fun _ => tracks_passTurn.bind fun _ =>
    tracks_get fun _ _ => hfire _ _ _

lemma tracks_perform (operation : Operation) :
    Tracks n (Game.perform fire operation) (Game.perform fire' operation) := by
  by_cases hfires : Fires operation
  · cases operation with
    | summon player spot name attack health => exact tracks_summon hfire _ _ _ _ _
    | dealDamage source target amount => exact tracks_dealDamage hfire _ _ _
    | endTurn => exact tracks_endTurn hfire
    | fire surface event args => exact hfire _ _ _
    | act action target => exact tracks_act hfire _ _
    | _ => exact hfires.elim
  · obtain ⟨work, hworks, hperform⟩ := work_of_not_fires hfires
    rw [hperform, hperform]
    exact tracks_onBoard (hworks Works)

omit hfire in
lemma tracks_keepScript (listener : ListenerId) (body : Payload → Program σ) :
    Tracks n (Game.keepScript listener body)
      (Game.keepScript listener fun args => watch (body args)) := by
  intro game t _
  refine ⟨t, ?_, Continues.refl game.board t⟩
  have hinsert : ∀ scripts : Table ListenerId (Payload → Program σ),
      Table.insert (scripts.map fun entry => (entry.1, fun args => watch (entry.2 args))) listener
          (fun args => watch (body args)) =
        (Table.insert scripts listener body).map
          fun entry => (entry.1, fun args => watch (entry.2 args)) := by
    intro scripts
    induction scripts with
    | nil => rfl
    | cons entry scripts ih =>
      by_cases hkey : entry.1 = listener
      · simp [Table.insert, hkey]
      · simp [Table.insert, hkey, ih]
  unfold Game.keepScript
  rw [modify_run, modify_run]
  simp only [withTranscript, transcribed, hinsert]

omit hfire in
lemma tracks_subscribe (surface : EntityId) (event : String) (body : Payload → Program σ) :
    Tracks n (Game.subscribe surface event body)
      (Game.subscribe surface event fun args => watch (body args)) :=
  (tracks_onBoard (within_bind _ _ fun _ => by simp)).bind fun listener =>
    (tracks_keepScript listener body).bind fun _ => tracks_pure _

omit hfire in
lemma tracks_subscribeEvent (event : Event) (target : EntityId) (body : Payload → Program σ) :
    Tracks n (Game.subscribeEvent event target body)
      (Game.subscribeEvent event target fun args => watch (body args)) :=
  (tracks_onBoard (within_subscribe _ _ fun _ => by simp)).bind fun binding =>
    (tracks_keepScript binding.listener body).bind fun _ => tracks_pure _

omit hfire in
lemma tracks_operated {x : GameM σ α} {x' : GameM (Watched σ) α} (hx : Tracks n x x')
    {next : Except Fault α → GameM σ Unit} {next' : Except Fault α → Program (Watched σ)}
    (hnext : ∀ result, Tracks n (next result) (Game.run fire' (next' result))) :
    Tracks n (attempt x >>= next)
      (get >>= fun game => attempt x' >>= fun result =>
        Game.run fire' (operated game.board (next' result))) := by
  intro game t hroom
  obtain ⟨t₁, hrun', hfirst⟩ := hx.attempt game t hroom
  obtain ⟨result, hrun⟩ := attempt_run x game
  rw [leftBy_attempt] at hfirst
  have hroom₁ := hfirst.room hroom
  have hnoted : Continues game.board t (leftBy x game).board
      (t₁.operate game.board (leftBy x game).board) :=
    hfirst.trans (Continues.operate t₁ hfirst.dispatching_eq hroom₁.fits)
  obtain ⟨t₂, hrest', hrest⟩ := hnext result _ _ hroom₁
  have hleft : leftBy (attempt x >>= next) game = leftBy (next result) (leftBy x game) := by
    unfold leftBy
    rw [bind_run, hrun]
    rfl
  refine ⟨t₂, ?_, hleft ▸ hnoted.trans hrest⟩
  rw [bind_run (attempt x), hrun]
  change (attempt x' >>= fun result => Game.run fire' (operated game.board (next' result)))
    (withTranscript game t) = _
  rw [bind_run, hrun', hrun]
  exact hrest'

lemma tracks_run (program : Program σ) :
    Tracks n (Game.run fire program) (Game.run fire' (watch program)) := by
  induction program with
  | finish result => exact tracks_settle result
  | look next ih => exact tracks_get fun game _ => ih game.board
  | note update next ih =>
    intro game t hroom
    exact ih (update game.host) { game with host := update game.host } t hroom
  | perform operation next ih => exact tracks_operated (tracks_perform hfire operation) ih
  | subscribe surface event body next _ ih =>
    exact tracks_operated (tracks_subscribe surface event body) ih
  | subscribeEvent event target body next _ ih =>
    exact tracks_operated (tracks_subscribeEvent event target body) ih

lemma tracks_handle (listener : ListenerId) (args : Payload) (handler : Handler) :
    Tracks n (Game.handle fire listener args handler)
      (Game.handle fire' listener args handler) := by
  cases handler with
  | trigger owner action targeting =>
    refine tracks_get fun game t => ?_
    simp only [board_withTranscript]
    cases targeting.resolve game.board owner args.focus args.other with
    | some target => exact tracks_act hfire action target
    | none => exact tracks_pure _
  | endAura aura => exact tracks_onBoard (within_endAura listener aura)
  | script =>
    refine tracks_get fun game t => ?_
    have hscript : Table.get? (withTranscript game t).scripts listener =
        (Table.get? game.scripts listener).map fun body args => watch (body args) :=
      get?_map_values game.scripts (fun body args => watch (body args)) listener
    rw [hscript]
    cases Table.get? game.scripts listener with
    | some body => exact tracks_run hfire (body args)
    | none => exact tracks_pure _

lemma tracks_call (id : ListenerId) (listener : Listener) (args : Payload) :
    Tracks n (Game.call fire id listener args) (Game.call fire' id listener args) := by
  unfold Game.call
  cases listener.gate with
  | none => exact tracks_handle hfire _ _ _
  | some gate =>
    refine tracks_get fun game t => ?_
    change Tracks n _ (if gate.1.holds game.board gate.2 args then _ else _)
    split
    · exact tracks_handle hfire _ _ _
    · exact tracks_pure _

end Programs

end CardEffects.Proofs
