import CardEffects.Proofs.SmallSteps

/-!
# Strides

What a step can do to the course of a game and to what is put off: it works on the board, it begins
or ends a pass, it goes on with a pass, or it passes the turn. All else that is proved of steps is
read off from these cases. The passes that are put off are the occurrences under way.
-/

namespace CardEffects.Proofs

variable {σ α β : Type}

/-- Whether a task neither fires an occurrence nor is done. -/
def Busy : Task σ → Prop
  | .fire _ _ _ | .done _ => False
  | _ => True

/-- Whether what is put off has no part in which occurrences are under way or whose turn it is. -/
def Plain : TaskFrame σ → Prop
  | .resume _ | .tell _ _ => True
  | _ => False

/-- What a step can do. -/
inductive Stride : Config σ → Config σ → Prop where
  /-- Work on the board, or begin something that goes on with the rest. -/
  | work {task : Task σ} (task' : Task σ) {frames : List (TaskFrame σ)} (added : List (TaskFrame σ))
    {game game' : Game σ} (hbusy : Busy task) (hadded : ∀ frame ∈ added, Plain frame)
    (hworks : Works game.board game'.board) :
    Stride ⟨task, frames, game⟩ ⟨task', added ++ frames, game'⟩
  | endTurn (next : Except Fault Unit → Program σ) (frames : List (TaskFrame σ)) (game : Game σ) :
    Stride ⟨.run (.perform .endTurn next), frames, game⟩
      ⟨.fire game.board.activePlayer.hero Occurrence.turnEnded
          { focus := some game.board.activePlayer.hero },
        .passTurn :: .resume next :: frames, game⟩
  | refuse {surface : EntityId} {event : String} {args : Payload} {fault : Fault}
    {frames : List (TaskFrame σ)} {game : Game σ}
    (hrefusal : refusal? game.board surface event = some fault) :
    Stride ⟨.fire surface event args, frames, game⟩ ⟨.done (.error fault), frames, game⟩
  | unheard {surface : EntityId} {event : String} {args : Payload}
    {frames : List (TaskFrame σ)} {game : Game σ}
    (hrefusal : refusal? game.board surface event = none) :
    Stride ⟨.fire surface event args, frames, game⟩ ⟨.done (.ok ()), frames, game⟩
  | enter {surface : EntityId} {event : String} {args : Payload}
    {frames : List (TaskFrame σ)} {game : Game σ}
    (hrefusal : refusal? game.board surface event = none) :
    Stride ⟨.fire surface event args, frames, game⟩
      ⟨.done (.ok ()), .pass surface event args (listenersAt game.board surface event) :: frames,
        { game with board := entered game.board surface event }⟩
  | goOn {result : Except Fault Unit} {frame : TaskFrame σ} (task' : Task σ)
    {frames : List (TaskFrame σ)} {game : Game σ} (hplain : Plain frame) :
    Stride ⟨.done result, frame :: frames, game⟩ ⟨task', frames, game⟩
  | keepTurn {fault : Fault} {frames : List (TaskFrame σ)} {game : Game σ} :
    Stride ⟨.done (.error fault), .passTurn :: frames, game⟩ ⟨.done (.error fault), frames, game⟩
  | passTurn {frames : List (TaskFrame σ)} {game : Game σ} :
    Stride ⟨.done (.ok ()), .passTurn :: frames, game⟩
      ⟨.fire (turnPassed game).board.activePlayer.hero Occurrence.turnStarted
          { focus := some (turnPassed game).board.activePlayer.hero },
        frames, turnPassed game⟩
  | next {surface : EntityId} {event : String} {args : Payload}
    {entry : ListenerId × Listener} {rest : List (ListenerId × Listener)} (task' : Task σ)
    {frames : List (TaskFrame σ)} {game : Game σ} :
    Stride ⟨.done (.ok ()), .pass surface event args (entry :: rest) :: frames, game⟩
      ⟨task', .pass surface event args rest :: frames, game⟩
  | leave {result : Except Fault Unit} {surface : EntityId} {event : String} {args : Payload}
    {rest : List (ListenerId × Listener)} {frames : List (TaskFrame σ)} {game : Game σ}
    (hrest : result = .ok () → rest = []) :
    Stride ⟨.done result, .pass surface event args rest :: frames, game⟩
      ⟨.done result, frames, concluded game⟩

/-- One game comes from another by work on the board. -/
def WorksOn (game game' : Game σ) : Prop :=
  Works game.board game'.board

instance : IsPreorder (Game σ) WorksOn where
  refl _ := .refl
  trans _ _ _ h h' := Relation.ReflTransGen.trans h h'

lemma Within.works_of_ok {x : GameM σ α} (h : Within WorksOn x) {game game' : Game σ} {a : α}
    (hrun : x game = .ok a game') : Works game.board game'.board := by
  rw [← leftBy_of_ok hrun]
  exact h game

lemma Within.works_of_error {x : GameM σ α} (h : Within WorksOn x) {game game' : Game σ}
    {fault : Fault} (hrun : x game = .error fault game') : Works game.board game'.board := by
  rw [← leftBy_of_error hrun]
  exact h game

lemma works_onBoard {operation : BoardM α} (h : Within Works operation) :
    Within WorksOn (onBoard operation : GameM σ α) := by
  intro game
  have hworks := h game.board
  unfold leftBy onBoard at *
  unfold WorksOn
  cases hrun : operation game.board <;> simpa [hrun] using hworks

lemma works_keepScript (listener : ListenerId) (body : Payload → Program σ) :
    Within WorksOn (Game.keepScript listener body) :=
  fun _ => .refl

lemma works_subscribe (surface : EntityId) (event : String) (body : Payload → Program σ) :
    Within WorksOn (Game.subscribe surface event body) :=
  (works_onBoard (within_bind _ _ fun _ => by simp)).bind fun _ =>
    (works_keepScript _ _).bind fun _ => within_pure _

lemma works_subscribeEvent (event : Event) (target : EntityId) (body : Payload → Program σ) :
    Within WorksOn (Game.subscribeEvent event target body) :=
  (works_onBoard (within_subscribe _ _ fun _ => by simp)).bind fun _ =>
    (works_keepScript _ _).bind fun _ => within_pure _

section Starts

variable (game : Game σ) (frames : List (TaskFrame σ))

lemma startOperation_of_not_fires {operation : Operation} (h : ¬Fires operation)
    (next : Except Fault operation.Reply → Program σ) :
    startOperation game frames operation next =
      .after (Game.perform still operation game) (fun result => .run (next result)) frames := by
  cases operation with
  | summon _ _ _ _ _ => exact absurd trivial h
  | dealDamage _ _ _ => exact absurd trivial h
  | endTurn => exact absurd trivial h
  | fire _ _ _ => exact absurd trivial h
  | act _ _ => exact absurd trivial h
  | _ => rfl

lemma stride_begin {task : Task σ} (hbusy : Busy task) (task' : Task σ) :
    Stride ⟨task, frames, game⟩ ⟨task', frames, game⟩ :=
  .work task' [] hbusy (by simp) .refl

lemma stride_begin_before {task : Task σ} (hbusy : Busy task) (task' : Task σ) {frame : TaskFrame σ}
    (hplain : Plain frame) : Stride ⟨task, frames, game⟩ ⟨task', frame :: frames, game⟩ :=
  .work task' [frame] hbusy (by simpa using hplain) .refl

lemma stride_after {task : Task σ} (hbusy : Busy task) {x : GameM σ α} (h : Within WorksOn x)
    (next : Except Fault α → Task σ) :
    Stride ⟨task, frames, game⟩ (.after (x game) next frames) := by
  unfold Config.after
  cases hrun : x game with
  | ok a game' => exact .work _ [] hbusy (by simp) (h.works_of_ok hrun)
  | error fault game' => exact .work _ [] hbusy (by simp) (h.works_of_error hrun)

lemma stride_startOperation (operation : Operation)
    (next : Except Fault operation.Reply → Program σ) :
    Stride ⟨.run (.perform operation next), frames, game⟩
      (startOperation game frames operation next) := by
  by_cases hfires : Fires operation
  · cases operation with
    | summon player spot name attack health =>
      have hplace : Within WorksOn
          (onBoard (Board.placeMinion player spot name attack health) : GameM σ EntityId) :=
        works_onBoard (within_placeMinion _ _ _ _ _)
      simp only [startOperation]
      cases hrun : onBoard (Board.placeMinion player spot name attack health) game with
      | ok id game' =>
        exact .work _ [.resume _] (by trivial) (by simp [Plain]) (hplace.works_of_ok hrun)
      | error fault game' =>
        exact .work _ [] (by trivial) (by simp) (hplace.works_of_error hrun)
    | dealDamage source target amount =>
      exact stride_begin_before game frames (by trivial) _ trivial
    | endTurn => exact .endTurn next frames game
    | fire surface event args => exact stride_begin_before game frames (by trivial) _ trivial
    | act action target => exact stride_begin_before game frames (by trivial) _ trivial
    | _ => exact hfires.elim
  · rw [startOperation_of_not_fires game frames hfires]
    obtain ⟨work, hworks, hperform⟩ := work_of_not_fires hfires
    rw [hperform]
    exact stride_after game frames (by trivial) (works_onBoard (hworks Works)) _

lemma stride_startFiring (surface : EntityId) (event : String) (args : Payload) :
    Stride ⟨.fire surface event args, frames, game⟩
      (startFiring game frames surface event args) := by
  unfold startFiring
  cases hrefusal : refusal? game.board surface event with
  | some fault => exact .refuse hrefusal
  | none =>
    cases hlist : listenersAt game.board surface event with
    | nil => exact .unheard hrefusal
    | cons entry rest =>
      simp only
      rw [← hlist]
      exact .enter hrefusal

lemma stride_startHandling (id : ListenerId) (listener : Listener) (args : Payload) :
    Stride ⟨.call id listener args, frames, game⟩
      (startHandling game frames id args listener.handler) := by
  cases listener.handler with
  | trigger owner action targeting =>
    simp only [startHandling]
    cases targeting.resolve game.board owner args.focus args.other with
    | some target => exact stride_begin game frames (by trivial) _
    | none => exact stride_begin game frames (by trivial) _
  | endAura aura =>
    exact stride_after game frames (by trivial) (works_onBoard (within_endAura id aura)) _
  | script =>
    simp only [startHandling]
    cases Table.get? game.scripts id with
    | some program => exact stride_begin game frames (by trivial) _
    | none => exact stride_begin game frames (by trivial) _

lemma stride_startCall (id : ListenerId) (listener : Listener) (args : Payload) :
    Stride ⟨.call id listener args, frames, game⟩ (startCall game frames id listener args) := by
  unfold startCall
  split
  · exact stride_startHandling game frames id listener args
  · exact stride_begin game frames (by trivial) _

lemma stride_startDamage (source : Option EntityId) (target : EntityId) (amount : Amount) :
    Stride ⟨.damage source target amount, frames, game⟩
      (startDamage game frames source target amount) := by
  have hlower : Within WorksOn
      (onBoard (Board.lowerStat target Stat.health amount) : GameM σ Amount) :=
    works_onBoard (within_updateStat _ _ _)
  unfold startDamage
  cases hrun : onBoard (Board.lowerStat target Stat.health amount) game with
  | ok value game' =>
    exact .work _ [.tell _ _] (by trivial) (by simp [Plain]) (hlower.works_of_ok hrun)
  | error fault game' => exact .work _ [] (by trivial) (by simp) (hlower.works_of_error hrun)

lemma stride_startAction (action : Action) (target : EntityId) :
    Stride ⟨.act action target, frames, game⟩ (startAction game frames target action) := by
  cases action with
  | change change =>
    exact stride_after game frames (by trivial) (works_onBoard (within_make change target)) _
  | damage amount => exact stride_begin game frames (by trivial) _
  | heal amount =>
    exact stride_after game frames (by trivial) (works_onBoard (within_heal target amount)) _

lemma stride_startProgram (program : Program σ) :
    Stride ⟨.run program, frames, game⟩ (startProgram game frames program) := by
  cases program with
  | finish result => exact stride_begin game frames (by trivial) _
  | look next => exact stride_begin game frames (by trivial) _
  | note update next => exact .work _ [] (by trivial) (by simp) .refl
  | perform operation next => exact stride_startOperation game frames operation next
  | subscribe surface event body next =>
    exact stride_after game frames (by trivial) (works_subscribe surface event body)
      fun result => .run (next result)
  | subscribeEvent event target body next =>
    exact stride_after game frames (by trivial) (works_subscribeEvent event target body)
      fun result => .run (next result)

lemma stride_takeUp (result : Except Fault Unit) (frame : TaskFrame σ) :
    Stride ⟨.done result, frame :: frames, game⟩ (takeUp game frames frame result) := by
  cases frame with
  | resume next => exact .goOn _ (by trivial)
  | tell target args =>
    cases result with
    | ok _ =>
      simp only [takeUp]
      cases game.board.controller? target with
      | some player => exact .goOn _ (by trivial)
      | none => exact .goOn _ (by trivial)
    | error fault => exact .goOn _ (by trivial)
  | passTurn =>
    cases result with
    | ok _ => exact .passTurn
    | error fault => exact .keepTurn
  | pass surface event args rest =>
    cases result with
    | ok _ =>
      cases rest with
      | nil => exact .leave fun _ => rfl
      | cons entry rest =>
        simp only [takeUp, callNext]
        split_ifs
        · exact .next _
        · exact .next _
    | error fault => exact .leave fun h => by cases h

end Starts

/-- Each step is one of the cases. -/
lemma stride_of_step {c c' : Config σ} (h : step c = some c') : Stride c c' := by
  obtain ⟨task, frames, game⟩ := c
  cases task with
  | fire surface event args =>
    cases h
    exact stride_startFiring game frames surface event args
  | damage source target amount =>
    cases h
    exact stride_startDamage game frames source target amount
  | act action target =>
    cases h
    exact stride_startAction game frames action target
  | call id listener args =>
    cases h
    exact stride_startCall game frames id listener args
  | run program =>
    cases h
    exact stride_startProgram game frames program
  | done result =>
    cases frames with
    | nil => cases h
    | cons frame frames =>
      cases h
      exact stride_takeUp game frames result frame

lemma Stride.develops {c c' : Config σ} (h : Stride c c') :
    Develops c.game.board c'.game.board := by
  cases h with
  | work task' added hbusy hadded hworks => exact hworks.develops
  | endTurn next frames game => exact .refl
  | refuse hrefusal => exact .refl
  | unheard hrefusal => exact .refl
  | enter hrefusal => exact develops_of_move (.enter _ _) trivial _
  | goOn task' hplain => exact .refl
  | keepTurn => exact .refl
  | passTurn => exact develops_of_move .passTurn trivial _
  | next task' => exact .refl
  | leave hrest => exact develops_of_move .conclude trivial _

lemma Stirred.develops {c c' : Config σ} (h : Stirred c c') :
    Develops c.game.board c'.game.board := by
  induction h with
  | refl => exact .refl
  | tail _ hlast ih =>
    obtain ⟨game, hstep, hboard⟩ := hlast
    rw [hboard]
    exact Trans.trans ih (stride_of_step hstep).develops

/-! ### Nesting -/

/-- The occurrences whose passes are put off, the innermost first. -/
def passes (frames : List (TaskFrame σ)) : List (EntityId × String) :=
  frames.filterMap fun
    | .pass surface event _ _ => some (surface, event)
    | _ => none

@[simp] lemma passes_pass (surface : EntityId) (event : String) (args : Payload)
    (rest : List (ListenerId × Listener)) (frames : List (TaskFrame σ)) :
    passes (.pass surface event args rest :: frames) = (surface, event) :: passes frames := rfl

@[simp] lemma passes_passTurn (frames : List (TaskFrame σ)) :
    passes (.passTurn :: frames) = passes frames := rfl

@[simp] lemma passes_resume (next : Except Fault Unit → Program σ) (frames : List (TaskFrame σ)) :
    passes (.resume next :: frames) = passes frames := rfl

lemma passes_plain {frame : TaskFrame σ} (h : Plain frame) (frames : List (TaskFrame σ)) :
    passes (frame :: frames) = passes frames := by
  cases frame with
  | resume next => rfl
  | tell target args => rfl
  | _ => exact h.elim

lemma passes_append_plain {added : List (TaskFrame σ)} (h : ∀ frame ∈ added, Plain frame)
    (frames : List (TaskFrame σ)) : passes (added ++ frames) = passes frames := by
  induction added with
  | nil => rfl
  | cons frame added ih =>
    rw [List.cons_append, passes_plain (h frame List.mem_cons_self)]
    exact ih fun f hf => h f (List.mem_cons_of_mem _ hf)

/-- How the occurrences under way are nested in a game that began on a board: on those that were
under way there stand the passes put off since, none of them twice and none a second time, and they
are at most as many as there was room for. -/
structure Nested (base : Board) (frames : List (TaskFrame σ)) (b : Board) : Prop where
  settings_eq : b.settings = base.settings
  dispatching_eq : b.dispatching = passes frames ++ base.dispatching
  nodup : (passes frames).Nodup
  fresh : ∀ occurrence ∈ passes frames, occurrence ∉ base.dispatching
  length_le : (passes frames).length ≤
    base.settings.maxDispatchDepth - base.dispatching.length

section Nested

variable {base : Board}

lemma nested_nil (b : Board) : Nested b ([] : List (TaskFrame σ)) b :=
  ⟨rfl, rfl, List.nodup_nil, by simp [passes], Nat.zero_le _⟩

lemma Nested.congr {frames frames' : List (TaskFrame σ)} {b b' : Board} (h : Nested base frames b)
    (hpasses : passes frames' = passes frames) (hsettings : b'.settings = b.settings)
    (hstack : b'.dispatching = b.dispatching) : Nested base frames' b' := by
  refine ⟨hsettings.trans h.settings_eq, ?_, ?_, ?_, ?_⟩
  · rw [hstack, hpasses, h.dispatching_eq]
  · rw [hpasses]
    exact h.nodup
  · rw [hpasses]
    exact h.fresh
  · rw [hpasses]
    exact h.length_le

lemma Nested.enter {frames : List (TaskFrame σ)} {b : Board} (h : Nested base frames b)
    {surface : EntityId} {event : String} (hrefusal : refusal? b surface event = none)
    (args : Payload) (list : List (ListenerId × Listener)) :
    Nested base (.pass surface event args list :: frames) (entered b surface event) := by
  obtain ⟨hfresh, hspare, -⟩ := refusal?_eq_none_iff.mp hrefusal
  have hstack := h.dispatching_eq
  rw [hstack, List.mem_append, not_or] at hfresh
  refine ⟨h.settings_eq, ?_, ?_, ?_, ?_⟩
  · rw [passes_pass, List.cons_append, ← hstack]
    rfl
  · exact List.nodup_cons.mpr ⟨hfresh.1, h.nodup⟩
  · rw [passes_pass]
    exact List.forall_mem_cons.mpr ⟨hfresh.2, h.fresh⟩
  · rw [hstack, h.settings_eq, List.length_append] at hspare
    rw [passes_pass, List.length_cons]
    omega

lemma Nested.leave {frames : List (TaskFrame σ)} {b : Board} {surface : EntityId} {event : String}
    {args : Payload} {rest : List (ListenerId × Listener)}
    (h : Nested base (.pass surface event args rest :: frames) b) :
    Nested base frames { b with dispatching := b.dispatching.tail } := by
  refine ⟨h.settings_eq, ?_, (List.nodup_cons.mp h.nodup).2, fun occurrence hmem => ?_, ?_⟩
  · rw [h.dispatching_eq]
    rfl
  · exact h.fresh occurrence (List.mem_cons_of_mem _ hmem)
  · exact (Nat.le_succ _).trans h.length_le

lemma Nested.head_fresh {frames : List (TaskFrame σ)} {b : Board} {surface : EntityId}
    {event : String} {args : Payload} {rest : List (ListenerId × Listener)}
    (h : Nested base (.pass surface event args rest :: frames) b) :
    (surface, event) ∉ b.dispatching.tail := by
  rw [h.dispatching_eq, passes_pass, List.cons_append, List.tail_cons, List.mem_append]
  exact not_or.mpr ⟨(List.nodup_cons.mp h.nodup).1, h.fresh _ List.mem_cons_self⟩

lemma Nested.stride {c c' : Config σ} (h : Nested base c.frames c.game.board)
    (hstride : Stride c c') : Nested base c'.frames c'.game.board := by
  cases hstride with
  | work task' added hbusy hadded hworks =>
    have hcourse := hworks.course_eq
    exact h.congr (passes_append_plain hadded _) (congrArg Prod.fst hcourse)
      (congrArg (·.2.1) hcourse)
  | endTurn next frames game => exact h.congr rfl rfl rfl
  | refuse hrefusal => exact h
  | unheard hrefusal => exact h
  | enter hrefusal => exact h.enter hrefusal _ _
  | goOn task' hplain => exact h.congr (passes_plain hplain _).symm rfl rfl
  | keepTurn => exact h.congr rfl rfl rfl
  | passTurn => exact h.congr rfl rfl rfl
  | next task' => exact h.congr rfl rfl rfl
  | leave hrest => exact h.leave

lemma Nested.stirs {c c' : Config σ} (h : Nested base c.frames c.game.board)
    (hstirs : Stirs c c') : Nested base c'.frames c'.game.board := by
  obtain ⟨game, hstep, hboard⟩ := hstirs
  rw [hboard]
  exact h.stride (stride_of_step hstep)

lemma Nested.stirred {c c' : Config σ} (h : Nested base c.frames c.game.board)
    (hstirred : Stirred c c') : Nested base c'.frames c'.game.board := by
  induction hstirred with
  | refl => exact h
  | tail _ hlast ih => exact ih.stirs hlast

end Nested

/-- The rest of a pass was the rest of it before, or its next subscription has been taken off, or
it has just begun with all that are in force. -/
lemma Stride.rest_cases {c c' : Config σ} (h : Stride c c') {surface : EntityId} {event : String}
    {args : Payload} {rest : List (ListenerId × Listener)}
    (hmem : .pass surface event args rest ∈ c'.frames) :
    .pass surface event args rest ∈ c.frames ∨
    (∃ entry, .pass surface event args (entry :: rest) ∈ c.frames) ∨
    c.task = .fire surface event args ∧ rest = listenersAt c.game.board surface event := by
  cases h with
  | work task' added hbusy hadded hworks =>
    rcases List.mem_append.mp hmem with hmem | hmem
    · exact (hadded _ hmem).elim
    · exact .inl hmem
  | endTurn next frames game => exact .inl (by simpa using hmem)
  | refuse hrefusal => exact .inl hmem
  | unheard hrefusal => exact .inl hmem
  | enter hrefusal =>
    rcases List.mem_cons.mp hmem with hhead | hmem
    · cases hhead
      exact .inr (.inr ⟨rfl, rfl⟩)
    · exact .inl hmem
  | goOn task' hplain => exact .inl (List.mem_cons_of_mem _ hmem)
  | keepTurn => exact .inl (List.mem_cons_of_mem _ hmem)
  | passTurn => exact .inl (List.mem_cons_of_mem _ hmem)
  | next task' =>
    rcases List.mem_cons.mp hmem with hhead | hmem
    · cases hhead
      exact .inr (.inl ⟨_, List.mem_cons_self⟩)
    · exact .inl (List.mem_cons_of_mem _ hmem)
  | leave hrest => exact .inl (List.mem_cons_of_mem _ hmem)

end CardEffects.Proofs
