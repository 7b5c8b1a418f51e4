import CardEffects.Proofs.Halting
import CardEffects.Proofs.Remainders

/-!
# Termination

No game goes on forever, and its steps come to what its operations come to. So every operation, in
whichever place it is performed, and every program comes to its end by steps, with the result that
it has when it is run.
-/

namespace CardEffects.Proofs

variable {σ α : Type}

lemma reaches_end (c : Config σ) :
    ∃ result game, Reaches c ⟨.done result, [], game⟩ := by
  induction halts c with
  | intro c _ ih =>
    cases hstep : step c with
    | none =>
      obtain ⟨result, game, rfl⟩ := step_eq_none hstep
      exact ⟨result, game, .refl⟩
    | some c' =>
      obtain ⟨result, game, hrest⟩ := ih c' (stirs_of_step hstep)
      exact ⟨result, game, .head hstep hrest⟩

/-! What is done above what has been put off is done in the same way whatever that is. -/

/-- A configuration before something more that is put off. -/
def Config.before (c : Config σ) (more : List (TaskFrame σ)) : Config σ :=
  ⟨c.task, c.frames ++ more, c.game⟩

section Before

variable (game : Game σ) (frames more : List (TaskFrame σ))

lemma after_before (outcome : EStateM.Result Fault (Game σ) α) (next : Except Fault α → Task σ) :
    (Config.after outcome next frames).before more =
      .after outcome next (frames ++ more) := by
  cases outcome <;> rfl

lemma startOperation_before (operation : Operation)
    (next : Except Fault operation.Reply → Program σ) :
    (startOperation game frames operation next).before more =
      startOperation game (frames ++ more) operation next := by
  by_cases hfires : Fires operation
  · cases operation with
    | summon player spot name attack health =>
      simp only [startOperation]
      cases onBoard (Board.placeMinion player spot name attack health) game <;> rfl
    | _ => first | rfl | exact hfires.elim
  · rw [startOperation_of_not_fires game frames hfires,
      startOperation_of_not_fires game (frames ++ more) hfires, after_before]

lemma startProgram_before (program : Program σ) :
    (startProgram game frames program).before more =
      startProgram game (frames ++ more) program := by
  cases program with
  | perform operation next => exact startOperation_before game frames more operation next
  | subscribe surface event body next => exact after_before frames more _ _
  | subscribeEvent event target body next => exact after_before frames more _ _
  | _ => rfl

lemma startFiring_before (surface : EntityId) (event : String) (args : Payload) :
    (startFiring game frames surface event args).before more =
      startFiring game (frames ++ more) surface event args := by
  unfold startFiring
  cases refusal? game.board surface event with
  | some fault => rfl
  | none => cases listenersAt game.board surface event <;> rfl

lemma startDamage_before (source : Option EntityId) (target : EntityId) (amount : Amount) :
    (startDamage game frames source target amount).before more =
      startDamage game (frames ++ more) source target amount := by
  unfold startDamage
  cases onBoard (Board.lowerStat target Stat.health amount) game <;> rfl

lemma startAction_before (action : Action) (target : EntityId) :
    (startAction game frames target action).before more =
      startAction game (frames ++ more) target action := by
  cases action with
  | change change => exact after_before frames more _ _
  | damage amount => rfl
  | heal amount => exact after_before frames more _ _

lemma startCall_before (id : ListenerId) (listener : Listener) (args : Payload) :
    (startCall game frames id listener args).before more =
      startCall game (frames ++ more) id listener args := by
  unfold startCall
  split_ifs
  · cases listener.handler with
    | trigger owner action targeting =>
      simp only [startHandling]
      cases targeting.resolve game.board owner args.focus args.other <;> rfl
    | endAura aura => exact after_before frames more _ _
    | script =>
      simp only [startHandling]
      cases Table.get? game.scripts id <;> rfl
  · rfl

lemma takeUp_before (frame : TaskFrame σ) (result : Except Fault Unit) :
    (takeUp game frames frame result).before more = takeUp game (frames ++ more) frame result := by
  cases frame with
  | resume next => rfl
  | tell target args =>
    cases result with
    | error fault => rfl
    | ok _ =>
      simp only [takeUp]
      cases game.board.controller? target <;> rfl
  | passTurn => cases result <;> rfl
  | pass surface event args rest =>
    cases result with
    | error fault => rfl
    | ok _ =>
      cases rest with
      | nil => rfl
      | cons entry rest =>
        simp only [takeUp, callNext]
        split_ifs <;> rfl

end Before

lemma step_before {c c' : Config σ} (h : step c = some c') (more : List (TaskFrame σ)) :
    step (c.before more) = some (c'.before more) := by
  obtain ⟨task, frames, game⟩ := c
  cases task with
  | fire surface event args =>
    cases h
    exact congrArg some (startFiring_before game frames more surface event args).symm
  | damage source target amount =>
    cases h
    exact congrArg some (startDamage_before game frames more source target amount).symm
  | act action target =>
    cases h
    exact congrArg some (startAction_before game frames more action target).symm
  | call id listener args =>
    cases h
    exact congrArg some (startCall_before game frames more id listener args).symm
  | run program =>
    cases h
    exact congrArg some (startProgram_before game frames more program).symm
  | done result =>
    cases frames with
    | nil => cases h
    | cons frame frames =>
      cases h
      exact congrArg some (takeUp_before game frames more frame result).symm

lemma Reaches.before {c c' : Config σ} (h : Reaches c c') (more : List (TaskFrame σ)) :
    Reaches (c.before more) (c'.before more) := by
  induction h with
  | refl => exact .refl
  | tail _ hlast ih => exact ih.tail (step_before hlast more)

/-- A task is done by steps, whatever has been put off, and they end as it does when it is run. -/
lemma task_ends (task : Task σ) (frames : List (TaskFrame σ)) (game : Game σ) :
    ∃ result game', attempt (taskMeaning Game.fire task) game = .ok result game' ∧
      Reaches ⟨task, frames, game⟩ ⟨.done result, frames, game'⟩ := by
  obtain ⟨result, game', hreaches⟩ := reaches_end ⟨task, [], game⟩
  refine ⟨result, game', ?_, hreaches.before frames⟩
  have hsame : taskMeaning Game.fire task game = settle result game' := by
    have hremainder := remainder_reaches game (nested_nil game.board) hreaches
    unfold remainder at hremainder
    change (attempt (settle result) >>= settle) game' = (attempt _ >>= settle) game at hremainder
    rw [attempt_bind_settle, attempt_bind_settle] at hremainder
    exact hremainder.symm
  rw [attempt_congr hsame, attempt_settle, pure_run]

/-- A firing comes to its end before anything that awaits it, and then that goes on. -/
lemma fire_ends (surface : EntityId) (event : String) (args : Payload) (frames : List (TaskFrame σ))
    (game : Game σ) : ∃ result game',
      attempt (Game.fire surface event args) game = .ok result game' ∧
      Reaches ⟨.fire surface event args, frames, game⟩ ⟨.done result, frames, game'⟩ :=
  task_ends (.fire surface event args) frames game

lemma endTurn_begins (next : Except Fault Unit → Program σ) (frames : List (TaskFrame σ))
    (game : Game σ) : ∃ result game',
      attempt (Game.fire game.board.activePlayer.hero Occurrence.turnEnded
        { focus := some game.board.activePlayer.hero }) game = .ok result game' ∧
      Reaches ⟨.run (.perform .endTurn next), frames, game⟩
        ⟨.done result, .passTurn :: .resume next :: frames, game'⟩ := by
  obtain ⟨result, game', hrun, hreaches⟩ := fire_ends game.board.activePlayer.hero
    Occurrence.turnEnded { focus := some game.board.activePlayer.hero }
    (.passTurn :: .resume next :: frames) game
  exact ⟨result, game', hrun, .head rfl hreaches⟩

lemma endTurn_run (fire : Firing σ) (game : Game σ) :
    Game.endTurn fire game =
      (fire game.board.activePlayer.hero Occurrence.turnEnded
          { focus := some game.board.activePlayer.hero } >>= fun _ =>
        (modify turnPassed : GameM σ Unit) >>= fun _ => get >>= fun passed =>
          fire passed.board.activePlayer.hero Occurrence.turnStarted
            { focus := some passed.board.activePlayer.hero }) game := rfl

lemma endTurn_ends (next : Except Fault Unit → Program σ) (frames : List (TaskFrame σ))
    (game : Game σ) : ∃ result game',
      attempt (Game.endTurn Game.fire) game = .ok result game' ∧
      Reaches ⟨.run (.perform .endTurn next), frames, game⟩
        ⟨.run (next result), frames, game'⟩ := by
  obtain ⟨result, game₁, hended, hbegin⟩ := endTurn_begins next frames game
  have hturn := attempt_congr (endTurn_run Game.fire game)
  cases result with
  | error fault =>
    exact ⟨.error fault, game₁, hturn.trans (attempt_bind_error hended),
      hbegin.trans (.head rfl (.head rfl .refl))⟩
  | ok _ =>
    obtain ⟨result, game', hstarted, hrest⟩ := fire_ends
      (turnPassed game₁).board.activePlayer.hero Occurrence.turnStarted
      { focus := some (turnPassed game₁).board.activePlayer.hero } (.resume next :: frames)
      (turnPassed game₁)
    exact ⟨result, game', (hturn.trans (attempt_bind_ok hended)).trans hstarted,
      hbegin.trans (.head rfl (hrest.trans (.head rfl .refl)))⟩

lemma operation_ends (operation : Operation) (next : Except Fault operation.Reply → Program σ)
    (frames : List (TaskFrame σ)) (game : Game σ) : ∃ result game',
      attempt (Game.perform Game.fire operation) game = .ok result game' ∧
      Reaches ⟨.run (.perform operation next), frames, game⟩
        ⟨.run (next result), frames, game'⟩ := by
  by_cases hfires : Fires operation
  · cases operation with
    | summon player spot name attack health =>
      cases hplace : onBoard (Board.placeMinion player spot name attack health) game with
      | error fault game' =>
        have hstep : step ⟨.run (.perform (.summon player spot name attack health) next), frames,
            game⟩ = some ⟨.run (next (.error fault)), frames, game'⟩ := by
          simp only [step, startProgram, startOperation, hplace]
        exact ⟨.error fault, game', attempt_bind_error (attempt_run_error hplace),
          .head hstep .refl⟩
      | ok id game₁ =>
        have hstep : step ⟨.run (.perform (.summon player spot name attack health) next), frames,
            game⟩ = some ⟨.fire player.hero Occurrence.minionSummoned { focus := some id },
              .resume (fun result => next (result.map fun _ => id)) :: frames, game₁⟩ := by
          simp only [step, startProgram, startOperation, hplace]
        obtain ⟨result, game', hrun, hreaches⟩ := fire_ends player.hero
          Occurrence.minionSummoned { focus := some id }
          (.resume (fun result => next (result.map fun _ => id)) :: frames) game₁
        have hreply : attempt (Game.fire player.hero Occurrence.minionSummoned
            { focus := some id } >>= fun _ => pure id : GameM σ EntityId) game₁ =
            .ok (result.map fun _ => id) game' := by
          rw [attempt_bind_pure, bind_run, hrun]
          rfl
        exact ⟨result.map fun _ => id, game',
          (attempt_bind_ok (attempt_run_ok hplace)).trans hreply,
          .head hstep (hreaches.trans (.head rfl .refl))⟩
    | dealDamage source target amount =>
      obtain ⟨result, game', hrun, hreaches⟩ :=
        task_ends (.damage source target amount) (.resume next :: frames) game
      exact ⟨result, game', hrun, .head rfl (hreaches.trans (.head rfl .refl))⟩
    | endTurn => exact endTurn_ends next frames game
    | fire surface event args =>
      obtain ⟨result, game', hrun, hreaches⟩ :=
        fire_ends surface event args (.resume next :: frames) game
      exact ⟨result, game', hrun, .head rfl (hreaches.trans (.head rfl .refl))⟩
    | act action target =>
      obtain ⟨result, game', hrun, hreaches⟩ :=
        task_ends (.act action target) (.resume next :: frames) game
      exact ⟨result, game', hrun, .head rfl (hreaches.trans (.head rfl .refl))⟩
    | _ => exact hfires.elim
  · obtain ⟨work, -, hperform⟩ := work_of_not_fires hfires
    have hstep : step ⟨.run (.perform operation next), frames, game⟩ =
        some (.after (onBoard work game) (fun result => .run (next result)) frames) := by
      rw [← hperform still]
      exact congrArg some (startOperation_of_not_fires game frames hfires next)
    rw [hperform]
    unfold Config.after at hstep
    cases hrun : (onBoard work : GameM σ operation.Reply) game with
    | ok a game' =>
      rw [hrun] at hstep
      exact ⟨.ok a, game', attempt_run_ok hrun, .head hstep .refl⟩
    | error fault game' =>
      rw [hrun] at hstep
      exact ⟨.error fault, game', attempt_run_error hrun, .head hstep .refl⟩

/-- Every run ends. From no configuration can a game go on forever, not even if the programs that
its subscriptions run are exchanged all the time, so neither subscriptions that make new ones nor
circles of them keep it going. Each operation of a program, in whichever place it is performed, and
the program itself come to an end by the steps of the game, with the results that they have when
they are run. Occurrences under way are nested no deeper than there was room for, none is under way
twice, and each pass walks the list that it began with. -/
theorem every_run_ends :
    WellFounded (fun c' c : Config σ => Stirs c c') ∧
    (∀ (operation : Operation) (next : Except Fault operation.Reply → Program σ)
      (frames : List (TaskFrame σ)) (game : Game σ), ∃ result game',
        attempt (Game.perform Game.fire operation) game = .ok result game' ∧
        Reaches ⟨.run (.perform operation next), frames, game⟩
          ⟨.run (next result), frames, game'⟩) ∧
    (∀ (program : Program σ) (game : Game σ), ∃ result game',
      attempt (Game.execute program) game = .ok result game' ∧
      Reaches ⟨.run program, [], game⟩ ⟨.done result, [], game'⟩) ∧
    (∀ (task : Task σ) (game : Game σ) (c : Config σ), Stirred ⟨task, [], game⟩ c →
      Nested game.board c.frames c.game.board) ∧
    ∀ c c' : Config σ, Stirs c c' → ∀ surface event args rest,
      .pass surface event args rest ∈ c'.frames →
        .pass surface event args rest ∈ c.frames ∨
        (∃ entry, .pass surface event args (entry :: rest) ∈ c.frames) ∨
        c.task = .fire surface event args ∧ rest = listenersAt c.game.board surface event := by
  refine ⟨⟨halts⟩, operation_ends, fun program game => task_ends (.run program) [] game, ?_, ?_⟩
  · exact fun task game c hstirred => (nested_nil game.board).stirred hstirred
  · rintro c c' ⟨game, hstep, -⟩ surface event args rest hmem
    exact (stride_of_step hstep).rest_cases hmem

end CardEffects.Proofs
