import CardEffects.Proofs.Watching

/-!
# Watched passes

A watched firing is the firing itself, and what it writes down is in order: it was refused for a
reason that the board gave, or its pass was answered call by call. So a watched run is the run
itself with its transcript.
-/

namespace CardEffects.Proofs

variable {σ : Type}

lemma callEach_cons_run (fire : Firing σ) (surface : EntityId) (event : String) (args : Payload)
    (entry : ListenerId × Listener) (rest : List (ListenerId × Listener)) (game : Game σ) :
    Game.callEach fire surface event args (entry :: rest) game =
      if game.board.isBound surface event entry.1 then
        (Game.call fire entry.1 entry.2 args >>= fun _ =>
          Game.callEach fire surface event args rest) game
      else Game.callEach fire surface event args rest game := by
  cases hbound : game.board.isBound surface event entry.1 <;> simp [Game.callEach, hbound]

lemma watchedCallEach_cons_run (fire' : Firing (Watched σ)) (surface : EntityId) (event : String)
    (args : Payload) (entry : ListenerId × Listener) (rest : List (ListenerId × Listener))
    (game : Game (Watched σ)) :
    watchedCallEach fire' surface event args (entry :: rest) game =
      if game.board.isBound surface event entry.1 then
        (watchedCall fire' entry args >>= fun c =>
          match c.result with
          | .ok _ => do
            let answer ← watchedCallEach fire' surface event args rest
            return (c :: answer.1, answer.2)
          | .error fault => pure ([c], .error fault)) game
      else watchedCallEach fire' surface event args rest game := by
  by_cases hbound : game.board.isBound surface event entry.1
  · rw [if_pos hbound]
    exact congrFun (if_pos hbound) game
  · rw [if_neg hbound]
    exact congrFun (if_neg hbound) game

section Calls

variable {n : Nat} {fire : Firing σ} {fire' : Firing (Watched σ)}
  (hfire : ∀ surface event args, Tracks n (fire surface event args) (fire' surface event args))

include hfire

lemma call_watched (entry : ListenerId × Listener) (args : Payload) (game : Game σ)
    (t : Transcript) (hroom : Room n game.board) :
    ∃ fired result game' t',
      let c : Call Fired :=
        { entry, args, before := game.board, fired, result, after := game'.board }
      attempt (Game.call fire entry.1 entry.2 args) game = .ok result game' ∧
      watchedCall fire' entry args (withTranscript game t) = .ok c (withTranscript game' t') ∧
      c.InOrder ∧ (∀ f, Happens f fired → f.InOrder) ∧
      Continues game.board t game'.board t' ∧ t'.fired = t.fired := by
  obtain ⟨t₁, hrun', hcont⟩ :=
    (tracks_call hfire entry.1 entry.2 args).attempt game
      { t.mark game.board with fired := [] } hroom
  obtain ⟨result, hrun⟩ := attempt_run (Game.call fire entry.1 entry.2 args) game
  rw [leftBy_attempt] at hcont
  obtain ⟨fired, hfired, hstart, horder⟩ := hcont.fired
  have hbegin := Continues.mark game.board t hroom.fits
  have hend := Continues.mark _ { t₁ with fired := t.fired } (hcont.room hroom).fits
  refine ⟨t₁.fired, result, _, _, hrun, ?_, ?_, ?_, (hbegin.trans hcont.inner).trans hend, rfl⟩
  · rw [hrun] at hrun'
    unfold watchedCall
    change (attempt (Game.call fire' entry.1 entry.2 args) >>= _)
      (withTranscript game { t.mark game.board with fired := [] }) = _
    rw [bind_run, hrun']
    rfl
  · refine ⟨hcont.develops, hcont.dispatching_eq, fun f hf => hstart f ?_⟩
    rwa [hfired] at hf
  · rwa [hfired]

lemma callEach_watched (surface : EntityId) (event : String) (args : Payload)
    (list : List (ListenerId × Listener)) (game : Game σ) (t : Transcript)
    (hroom : Room n game.board) :
    ∃ calls result game' t',
      attempt (Game.callEach fire surface event args list) game = .ok result game' ∧
      watchedCallEach fire' surface event args list (withTranscript game t) =
        .ok (calls, result) (withTranscript game' t') ∧
      Answers surface event args game.board list calls result game'.board ∧
      (∀ c ∈ calls, c.InOrder ∧ ∀ f, Happens f c.fired → f.InOrder) ∧
      Continues game.board t game'.board t' ∧ t'.fired = t.fired := by
  induction list generalizing game t with
  | nil => exact ⟨[], .ok (), game, t, rfl, rfl, .done _, by simp, Continues.refl _ _, rfl⟩
  | cons entry rest ih =>
    cases hbound : game.board.isBound surface event entry.1 with
    | false =>
      obtain ⟨calls, result, game', t', hrun, hrun', hanswers, hrest⟩ := ih game t hroom
      refine ⟨calls, result, game', t', ?_, ?_, .skip hbound hanswers, hrest⟩
      · unfold attempt at hrun ⊢
        rw [callEach_cons_run, if_neg (by simp [hbound])]
        exact hrun
      · rw [watchedCallEach_cons_run, board_withTranscript, if_neg (by simp [hbound])]
        exact hrun'
    | true =>
      obtain ⟨fired, outcome, game₁, t₁, hcall, hcall', horder, hinner, hfirst, hfired⟩ :=
        call_watched hfire entry args game t hroom
      have hcallEach : attempt (Game.callEach fire surface event args (entry :: rest)) game =
          attempt (Game.call fire entry.1 entry.2 args >>= fun _ =>
            Game.callEach fire surface event args rest) game := by
        unfold attempt
        rw [callEach_cons_run, if_pos hbound]
      have hwatched := watchedCallEach_cons_run fire' surface event args entry rest
        (withTranscript game t)
      rw [board_withTranscript, if_pos hbound, bind_run, hcall'] at hwatched
      let c : Call Fired :=
        { entry, args, before := game.board, fired, result := outcome, after := game₁.board }
      cases outcome with
      | error fault =>
        refine ⟨[c], .error fault, game₁, t₁, ?_, hwatched, .fault (c := c) hbound rfl rfl, ?_,
          hfirst, hfired⟩
        · rw [hcallEach]
          exact attempt_bind_error hcall
        · intro c' hc
          rw [List.mem_singleton.mp hc]
          exact ⟨horder, hinner⟩
      | ok _ =>
        obtain ⟨calls, result, game', t', hrun, hrun', hanswers, hcalls, hrest, hfired'⟩ :=
          ih game₁ t₁ (hfirst.room hroom)
        refine ⟨c :: calls, result, game', t', ?_, ?_, .call (c := c) hbound rfl rfl hanswers, ?_,
          hfirst.trans hrest, hfired'.trans hfired⟩
        · rw [hcallEach, attempt_bind_ok hcall]
          exact hrun
        · rw [hwatched]
          change (watchedCallEach fire' surface event args rest >>= _) _ = _
          rw [bind_run, hrun']
          rfl
        · intro c' hc
          rcases List.mem_cons.mp hc with rfl | hc
          · exact ⟨horder, hinner⟩
          · exact hcalls c' hc

end Calls

/-! ### Watched firings -/

/-- What is known of a firing and a watched pass that stands for it: what the pass answers is the
firing's result, and is in order. -/
def Answering (n : Nat) (x : GameM σ Unit)
    (pass : GameM (Watched σ) (List (Call Fired) × Except Fault Unit))
    (surface : EntityId) (event : String) (args : Payload) (game : Game σ) (t : Transcript) : Prop :=
  Room n game.board → ∃ calls result game' t',
    attempt x game = .ok result game' ∧
    answered pass (withTranscript game t) = .ok (calls, result) (withTranscript game' t') ∧
    Continues game.board t game'.board t' ∧ t'.fired = t.fired ∧
    Fired.InOrder { surface, event, args, start := game.board, calls, result, finish := game'.board } ∧
    ∀ c ∈ calls, ∀ f, Happens f c.fired → f.InOrder

lemma answered_of_error {pass : GameM (Watched σ) (List (Call Fired) × Except Fault Unit)}
    {game game' : Game (Watched σ)} {fault : Fault} (h : pass game = .error fault game') :
    answered pass game = .ok ([], .error fault) game' := by
  unfold answered
  rw [bind_run, attempt_run_error h]
  rfl

lemma answered_of_ok {pass : GameM (Watched σ) (List (Call Fired) × Except Fault Unit)}
    {game game' : Game (Watched σ)} {answer : List (Call Fired) × Except Fault Unit}
    (h : pass game = .ok answer game') : answered pass game = .ok answer game' := by
  unfold answered
  rw [bind_run, attempt_run_ok h]
  rfl

lemma answering_refused {n : Nat} {x : GameM σ Unit}
    {pass : GameM (Watched σ) (List (Call Fired) × Except Fault Unit)} {surface : EntityId}
    {event : String} (fault : Fault) (args : Payload) {game : Game σ} {t : Transcript}
    (hrefusal : refusal? game.board surface event = some fault) (hx : x game = .error fault game)
    (hpass : pass (withTranscript game t) = .error fault (withTranscript game t)) :
    Answering n x pass surface event args game t :=
  fun _ => ⟨[], .error fault, game, t, attempt_run_error hx, answered_of_error hpass,
    Continues.refl _ _, rfl, .refused fault hrefusal rfl rfl rfl, by simp⟩

lemma tracks_watchedBy {n : Nat} {x : GameM σ Unit}
    {pass : GameM (Watched σ) (List (Call Fired) × Except Fault Unit)} {surface : EntityId}
    {event : String} {args : Payload}
    (h : ∀ game t, Answering n x pass surface event args game t) :
    Tracks n x (watchedBy surface event args pass) := by
  intro game t hroom
  obtain ⟨calls, result, game', t₁, hrun, hrun', hcont, hfired, horder, hinner⟩ :=
    h game (t.mark game.board) hroom
  let f : Fired :=
    { surface, event, args, start := game.board, calls, result, finish := game'.board }
  have hleft : leftBy x game = game' := by
    rw [← leftBy_attempt, leftBy_of_ok hrun]
  have hbegin := Continues.mark game.board t hroom.fits
  have hall : Continues game.board t game'.board t₁ := hbegin.trans hcont
  have hend := Continues.mark game'.board t₁ (hall.room hroom).fits
  refine ⟨t₁.fire f, ?_, hleft ▸ ⟨hall.develops, hall.settings_eq, hall.dispatching_eq, ?_,
    (hall.trans hend).operations, (hall.trans hend).moments⟩⟩
  · unfold watchedBy
    change (answered pass >>= _) (withTranscript game (t.mark game.board)) = _
    rw [bind_run, hrun']
    unfold attempt at hrun
    cases hx : x game with
    | ok _ _ =>
      simp only [hx, EStateM.Result.ok.injEq] at hrun
      obtain ⟨rfl, rfl⟩ := hrun
      rfl
    | error fault _ =>
      simp only [hx, EStateM.Result.ok.injEq] at hrun
      obtain ⟨rfl, rfl⟩ := hrun
      rfl
  · refine ⟨[f], by rw [Transcript.fire, hfired]; rfl, fun g hg => ?_, fun g hg => ?_⟩
    · rw [List.mem_singleton.mp hg]
      exact ⟨.refl, rfl⟩
    · cases hg with
      | here hmem =>
        rw [List.mem_singleton.mp hmem]
        exact horder
      | during hmem hcall hdeep =>
        rw [List.mem_singleton.mp hmem] at hcall
        exact hinner _ hcall g hdeep

section Passes

variable {n : Nat} {b b' : Board} {surface : EntityId} {event : String}

lemma Room.enter (h : Room (n + 1) b) (hfresh : (surface, event) ∉ b.dispatching) :
    Room n (entered b surface event) where
  nodup := List.nodup_cons.mpr ⟨hfresh, h.nodup⟩
  length_eq := by
    have hlength := h.length_eq
    simp only [entered, List.length_cons]
    omega

lemma Continues.leave {t t' : Transcript} (h : Continues (entered b surface event) t b' t')
    (hfired : t'.fired = t.fired) :
    Continues b t { b' with dispatching := b.dispatching } t' := by
  have henter : Develops b (entered b surface event) :=
    develops_of_move (.enter surface event) trivial b
  have hleave : Develops b' { b' with dispatching := b.dispatching } := by
    have hmove := develops_of_move .conclude trivial b'
    have hrun : leftBy Move.conclude.run b' = { b' with dispatching := b.dispatching } := by
      change ({ b' with dispatching := b'.dispatching.tail } : Board) = _
      rw [h.dispatching_eq]
      rfl
    rwa [hrun] at hmove
  obtain ⟨moments, hmoments, hpair, hall⟩ := h.moments
  refine ⟨Trans.trans (Trans.trans henter h.develops) hleave, h.settings_eq, rfl,
    ⟨[], by simp [hfired], by simp, fun _ h => (not_happens_nil h).elim⟩, h.operations,
    moments, hmoments, hpair, fun m hm => ?_⟩
  obtain ⟨hfrom, hto, hfits⟩ := hall m hm
  exact ⟨Trans.trans henter hfrom, Trans.trans hto hleave, hfits⟩

variable {τ γ : Type}

lemma onBoard_eq_ok {operation : BoardM γ} {game game' : Game τ} {a : γ} :
    onBoard operation game = .ok a game' ↔
      ∃ b, operation game.board = .ok a b ∧ game' = { game with board := b } := by
  unfold onBoard
  cases operation game.board with
  | ok a' b => simp [eq_comm]
  | error fault b => simp

lemma refuseReentry_run (surface : EntityId) (event : String) (x : GameM τ γ) (game : Game τ) :
    (onBoard (Game.refuseReentry surface event) >>= fun _ => x) game =
      if (surface, event) ∈ game.board.dispatching then
        .error (.reentrantDispatch surface event) game
      else x game := by
  by_cases h : (surface, event) ∈ game.board.dispatching <;>
    simp [onBoard, Game.refuseReentry, h]

lemma pass_run (fire : Firing σ) (surface : EntityId) (event : String) (args : Payload)
    (game : Game σ) :
    Game.pass fire surface event args game =
      match game.board.character? surface with
      | none => .error (.unknownEntity surface) game
      | some c =>
        if c.listeners.listFor event = [] then .ok () game
        else
          (attempt (Game.callEach fire surface event args (c.listeners.listFor event)) >>=
            fun result => onBoard Game.leave >>= fun _ => settle result)
            { game with board := entered game.board surface event } := by
  unfold Game.pass Board.character
  cases hc : game.board.character? surface with
  | none => simp [onBoard, hc]
  | some c =>
    cases hlist : c.listeners.listFor event with
    | nil => simp [onBoard, hc, hlist]
    | cons entry rest =>
      simp [onBoard, hc, hlist, entered, Game.enter]

lemma watchedPass_run (fire' : Firing (Watched σ)) (surface : EntityId) (event : String)
    (args : Payload) (game : Game (Watched σ)) :
    watchedPass fire' surface event args game =
      match game.board.character? surface with
      | none => .error (.unknownEntity surface) game
      | some c =>
        if c.listeners.listFor event = [] then .ok ([], .ok ()) game
        else
          (watchedCallEach fire' surface event args (c.listeners.listFor event) >>=
            fun answer => onBoard Game.leave >>= fun _ => pure answer)
            { game with board := entered game.board surface event } := by
  unfold watchedPass Board.character
  cases hc : game.board.character? surface with
  | none => simp [onBoard, hc]
  | some c =>
    cases hlist : c.listeners.listFor event with
    | nil => simp [onBoard, hc, hlist]
    | cons entry rest =>
      simp [onBoard, hc, hlist, entered, Game.enter]

lemma leave_run {game : Game τ} {stack : List (EntityId × String)}
    (h : game.board.dispatching = (surface, event) :: stack) :
    (onBoard Game.leave : GameM τ Unit) game =
      .ok () { game with board := { game.board with dispatching := stack } } := by
  simp [onBoard, Game.leave, h]

/-- A pass on a board that lets the occurrence through makes the calls that are due. -/
lemma answering_pass {fire : Firing σ} {fire' : Firing (Watched σ)} (args : Payload)
    (hfire : ∀ surface event args, Tracks n (fire surface event args) (fire' surface event args))
    {game : Game σ} (t : Transcript) (hrefusal : refusal? game.board surface event = none) :
    Answering (n + 1) (Game.pass fire surface event args)
      (watchedPass fire' surface event args) surface event args game t := by
  intro hroom
  obtain ⟨hfresh, -, hplay⟩ := refusal?_eq_none_iff.mp hrefusal
  obtain ⟨c, hc⟩ := Option.isSome_iff_exists.mp ((character?_isSome game.board surface).trans hplay)
  have hlisteners : listenersAt game.board surface event = c.listeners.listFor event := by
    simp [listenersAt, hc]
  have hpass := pass_run fire surface event args game
  have hpass' := watchedPass_run fire' surface event args (withTranscript game t)
  simp only [hc] at hpass
  simp only [board_withTranscript, hc] at hpass'
  by_cases hempty : c.listeners.listFor event = []
  · rw [if_pos hempty] at hpass hpass'
    refine ⟨[], .ok (), game, t, attempt_run_ok hpass, answered_of_ok hpass', Continues.refl _ _,
      rfl, .answered (entered game.board surface event) hrefusal ?_ rfl (by simp), by simp⟩
    simp only [hlisteners, hempty]
    exact .done _
  · rw [if_neg hempty] at hpass hpass'
    obtain ⟨calls, result, game', t', hrun, hrun', hanswers, hcalls, hcont, hfired⟩ :=
      callEach_watched hfire surface event args (c.listeners.listFor event)
        { game with board := entered game.board surface event } t (hroom.enter hfresh)
    have hstack : game'.board.dispatching = (surface, event) :: game.board.dispatching :=
      hcont.dispatching_eq
    rw [bind_run, hrun] at hpass
    change _ = (watchedCallEach fire' surface event args (c.listeners.listFor event) >>= _)
      (withTranscript { game with board := entered game.board surface event } t) at hpass'
    rw [bind_run, hrun'] at hpass'
    refine ⟨calls, result,
      { game' with board := { game'.board with dispatching := game.board.dispatching } }, t',
      ?_, ?_, hcont.leave hfired, hfired, .answered game'.board hrefusal ?_ rfl ?_, ?_⟩
    · simp only [bind_run, leave_run hstack] at hpass
      unfold attempt
      rw [hpass]
      cases result <;> rfl
    · refine answered_of_ok (hpass'.trans ?_)
      have hstack' : (withTranscript game' t').board.dispatching =
          (surface, event) :: game.board.dispatching := hstack
      simp only [bind_run, leave_run hstack']
      rfl
    · rw [hlisteners]
      exact hanswers
    · exact fun c hc => (hcalls c hc).1
    · exact fun c hc => (hcalls c hc).2

lemma Answering.congr {x y : GameM σ Unit} {args : Payload}
    {pass pass' : GameM (Watched σ) (List (Call Fired) × Except Fault Unit)} {game : Game σ}
    {t : Transcript} (h : Answering n x pass surface event args game t) (hx : y game = x game)
    (hpass : pass' (withTranscript game t) = pass (withTranscript game t)) :
    Answering n y pass' surface event args game t := by
  have hrun : attempt y game = attempt x game := by
    unfold attempt
    rw [hx]
  have hattempt : attempt pass' (withTranscript game t) = attempt pass (withTranscript game t) := by
    unfold attempt
    rw [hpass]
  have hanswer : answered pass' (withTranscript game t) =
      answered pass (withTranscript game t) := by
    unfold answered
    rw [bind_run, bind_run, hattempt]
  unfold Answering at h ⊢
  rwa [hrun, hanswer]

lemma answering_guarded {x : GameM σ Unit}
    {pass : GameM (Watched σ) (List (Call Fired) × Except Fault Unit)} {args : Payload}
    {game : Game σ} {t : Transcript}
    (h : (surface, event) ∉ game.board.dispatching →
      Answering n x pass surface event args game t) :
    Answering n (onBoard (Game.refuseReentry surface event) >>= fun _ => x)
      (onBoard (Game.refuseReentry surface event) >>= fun _ => pass) surface event args game t := by
  have hrun := refuseReentry_run surface event x game
  have hrun' := refuseReentry_run surface event pass (withTranscript game t)
  by_cases hunder : (surface, event) ∈ game.board.dispatching
  · refine answering_refused (.reentrantDispatch surface event) args ?_ (hrun.trans (if_pos hunder))
      (hrun'.trans (if_pos hunder))
    simp [refusal?, hunder]
  · exact (h hunder).congr (hrun.trans (if_neg hunder)) (hrun'.trans (if_neg hunder))

lemma tracks_fireWithin (n : Nat) (surface : EntityId) (event : String) (args : Payload) :
    Tracks n (Game.fireWithin n surface event args : GameM σ Unit)
      (watchedFireWithin n surface event args) := by
  -- What a call fires has one occurrence less to spare than what the call answers.
  induction n generalizing surface event args with
  | zero =>
    refine tracks_watchedBy fun game t hroom => answering_guarded (fun hunder => ?_) hroom
    have hfull : game.board.settings.maxDispatchDepth ≤ game.board.dispatching.length :=
      hroom.length_eq.ge
    refine answering_refused (.depthExceeded game.board.settings.maxDispatchDepth) args ?_ rfl rfl
    simp [refusal?, hunder, hfull]
  | succ n ih =>
    refine tracks_watchedBy fun game t hroom => answering_guarded (fun hunder => ?_) hroom
    have hspare : game.board.dispatching.length < game.board.settings.maxDispatchDepth := by
      have := hroom.length_eq
      omega
    cases hplay : game.board.contains surface with
    | true => exact answering_pass args ih t (refusal?_eq_none_iff.mpr ⟨hunder, hspare, hplay⟩)
    | false =>
      have hnone := character?_eq_none hplay
      refine answering_refused (.unknownEntity surface) args ?_ ?_ ?_
      · simp [refusal?, hunder, hspare, hplay]
      · simp only [pass_run, hnone]
      · simp only [watchedPass_run, board_withTranscript, hnone]

end Passes

lemma Room.budget_eq {n : Nat} {game : Game σ} (h : Room n game.board) : game.budget = n := by
  have := h.length_eq
  unfold Game.budget
  omega

lemma tracks_fire (n : Nat) (surface : EntityId) (event : String) (args : Payload) :
    Tracks n (Game.fire surface event args : GameM σ Unit) (watchedFire surface event args) := by
  intro game t hroom
  have htracks := tracks_fireWithin n surface event args game t hroom
  have hbudget := hroom.budget_eq
  have hbudget' : (withTranscript game t).budget = n := hbudget
  have hfire : Game.fire surface event args game = Game.fireWithin n surface event args game := by
    rw [← hbudget]
    rfl
  have hfire' : watchedFire surface event args (withTranscript game t) =
      watchedFireWithin n surface event args (withTranscript game t) := by
    rw [← hbudget']
    rfl
  unfold leftBy at htracks ⊢
  rwa [hfire, hfire']

/-- The transcript of a run is kept by the run itself: with it beside the state of the programs, the
program does what it does anyway. -/
theorem watched_execute {game : Game σ} (hstack : game.board.dispatching = [])
    (program : Program σ) :
    Game.run watchedFire (watch program) (withTranscript game {}) =
        transcribed (transcript program game) (Game.execute program game) ∧
      Continues game.board {} (leftBy (Game.execute program) game).board
        (transcript program game) := by
  have hroom : Room game.board.settings.maxDispatchDepth game.board :=
    ⟨by rw [hstack]; exact List.nodup_nil, by rw [hstack]; exact Nat.zero_add _⟩
  obtain ⟨t, hrun, hcont⟩ := tracks_run (tracks_fire _) program game {} hroom
  have ht : transcript program game = t := by
    unfold transcript leftBy
    rw [hrun]
    cases Game.run Game.fire program game <;> rfl
  rw [ht]
  exact ⟨hrun, hcont⟩

lemma boards_develop {game : Game σ} (hstack : game.board.dispatching = [])
    (program : Program σ) :
    (boards program game).Pairwise Develops ∧
      ∀ b ∈ boards program game, Develops game.board b ∧ StackFits b := by
  obtain ⟨-, hcont⟩ := watched_execute hstack program
  obtain ⟨moments, hmoments, hpair, hall⟩ := hcont.moments
  have hboards : boards program game =
      game.board :: moments ++ [(leftBy (Game.execute program) game).board] := by
    unfold boards
    rw [hmoments]
    rfl
  have hstart : StackFits game.board := by simp [StackFits, hstack]
  have hend : StackFits (leftBy (Game.execute program) game).board := by
    simp [StackFits, hcont.dispatching_eq, hstack]
  rw [hboards]
  constructor
  · refine List.pairwise_append.mpr ⟨List.pairwise_cons.mpr ⟨fun m hm => (hall m hm).1, hpair⟩,
      List.pairwise_singleton _ _, fun b hb last hlast => ?_⟩
    rw [List.mem_singleton.mp hlast]
    rcases List.mem_cons.mp hb with rfl | hb
    · exact hcont.develops
    · exact (hall b hb).2.1
  · intro b hb
    rcases List.mem_append.mp hb with hb | hb
    · rcases List.mem_cons.mp hb with rfl | hb
      · exact ⟨.refl, hstart⟩
      · exact ⟨(hall b hb).1, (hall b hb).2.2⟩
    · rw [List.mem_singleton.mp hb]
      exact ⟨hcont.develops, hend⟩

end CardEffects.Proofs
