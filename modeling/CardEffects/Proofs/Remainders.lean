import CardEffects.Proofs.Strides
import CardEffects.Proofs.WatchedPasses

/-!
# Remainders

The small steps of a game are the game. What is still to be done at a configuration comes to what
the operations themselves come to, one after another, and it comes to the same before and after each
step.
-/

namespace CardEffects.Proofs

variable {σ α : Type}

/-! ### What is still to be done -/

/-- What a task comes to when occurrences are fired in a given way. -/
def taskMeaning (fire : Firing σ) : Task σ → GameM σ Unit
  | .fire surface event args => fire surface event args
  | .damage source target amount => Game.dealDamage fire source target amount
  | .act action target => Game.act fire action target
  | .call id listener args => Game.call fire id listener args
  | .run program => Game.run fire program
  | .done result => settle result

/-- What has been put off comes to, once something is done. -/
def frameMeaning (fire : Firing σ) : TaskFrame σ → Except Fault Unit → GameM σ Unit
  | .resume next, result => Game.run fire (next result)
  | .tell target args, result => do
    settle result
    match (← get).board.controller? target with
    | some player => fire player.hero Occurrence.characterDamaged args
    | none => return
  | .passTurn, result => do
    settle result
    modify turnPassed
    let starting := (← get).board.activePlayer.hero
    fire starting Occurrence.turnStarted { focus := some starting }
  | .pass surface event args rest, result => do
    let result ← attempt (settle result >>= fun _ => Game.callEach fire surface event args rest)
    onBoard Game.leave
    settle result

/-- How occurrences are fired above what is put off, if there was room for `n` of them below. -/
def firingAbove (n : Nat) (frames : List (TaskFrame σ)) : Firing σ :=
  match passes frames with
  | [] => Game.fire
  | under => Game.fireWithin (n - under.length)

/-- All that has been put off, one after another. -/
def unwind (n : Nat) : List (TaskFrame σ) → Except Fault Unit → GameM σ Unit
  | [], result => settle result
  | frame :: frames, result => do
    unwind n frames (← attempt (frameMeaning (firingAbove n (frame :: frames)) frame result))

/-- What is still to be done at a configuration. -/
def remainder (n : Nat) (c : Config σ) : EStateM.Result Fault (Game σ) Unit :=
  (attempt (taskMeaning (firingAbove n c.frames) c.task) >>= unwind n c.frames) c.game

section Remainders

variable {n : Nat} {frames : List (TaskFrame σ)} {game game' : Game σ} {task task' : Task σ}

lemma remainder_begin (h : taskMeaning (firingAbove n frames) task' game' =
      taskMeaning (firingAbove n frames) task game) :
    remainder n ⟨task', frames, game'⟩ = remainder n ⟨task, frames, game⟩ := by
  unfold remainder
  rw [bind_run, bind_run, attempt_congr h]

lemma remainder_cons (frame : TaskFrame σ) :
    remainder n ⟨task, frame :: frames, game⟩ =
      (attempt (attempt (taskMeaning (firingAbove n (frame :: frames)) task) >>=
        frameMeaning (firingAbove n (frame :: frames)) frame) >>= unwind n frames) game := by
  rw [attempt_of_attempt_bind]
  rfl

lemma remainder_push {frame : TaskFrame σ}
    (h : (attempt (taskMeaning (firingAbove n (frame :: frames)) task') >>=
        frameMeaning (firingAbove n (frame :: frames)) frame) game' =
      taskMeaning (firingAbove n frames) task game) :
    remainder n ⟨task', frame :: frames, game'⟩ = remainder n ⟨task, frames, game⟩ := by
  rw [remainder_cons]
  unfold remainder
  rw [bind_run, bind_run, attempt_congr h]

lemma remainder_takeUp {result : Except Fault Unit} {frame : TaskFrame σ}
    (h : taskMeaning (firingAbove n frames) task' game' =
      frameMeaning (firingAbove n (frame :: frames)) frame result game) :
    remainder n ⟨task', frames, game'⟩ = remainder n ⟨.done result, frame :: frames, game⟩ := by
  rw [remainder_cons]
  unfold remainder taskMeaning at *
  rw [attempt_settle, pure_bind, bind_run, bind_run, attempt_congr h]

lemma remainder_replace {result : Except Fault Unit} {frame frame' : TaskFrame σ}
    (h : (attempt (taskMeaning (firingAbove n (frame' :: frames)) task') >>=
        frameMeaning (firingAbove n (frame' :: frames)) frame') game =
      frameMeaning (firingAbove n (frame :: frames)) frame result game) :
    remainder n ⟨task', frame' :: frames, game⟩ =
      remainder n ⟨.done result, frame :: frames, game⟩ := by
  rw [remainder_cons]
  unfold remainder taskMeaning at *
  rw [attempt_settle, pure_bind, bind_run, attempt_congr h]
  rfl

lemma remainder_after {x : GameM σ α} {next : Except Fault α → Task σ}
    (h : taskMeaning (firingAbove n frames) task game =
      (attempt x >>= fun result => taskMeaning (firingAbove n frames) (next result)) game) :
    remainder n (.after (x game) next frames) = remainder n ⟨task, frames, game⟩ := by
  unfold Config.after
  cases hx : x game with
  | ok a game' =>
    rw [bind_run, attempt_run_ok hx] at h
    exact remainder_begin h.symm
  | error fault game' =>
    rw [bind_run, attempt_run_error hx] at h
    exact remainder_begin h.symm

lemma remainder_after_done {x : GameM σ Unit}
    (h : taskMeaning (firingAbove n frames) task game = x game) :
    remainder n (.after (x game) .done frames) = remainder n ⟨task, frames, game⟩ :=
  remainder_after (h.trans (congrFun (attempt_bind_settle x) game).symm)

end Remainders

/-! ### Firing -/

section Firing

variable {game : Game σ} {surface : EntityId} {event : String}

lemma fireWithin_refused {fault : Fault} (args : Payload)
    (h : refusal? game.board surface event = some fault) :
    Game.fireWithin game.budget surface event args game = .error fault game := by
  by_cases hunder : (surface, event) ∈ game.board.dispatching
  · have hfault : fault = .reentrantDispatch surface event := by
      simpa [refusal?, hunder] using h.symm
    subst hfault
    cases game.budget with
    | zero => exact (refuseReentry_run _ _ _ _).trans (if_pos hunder)
    | succ n => exact (refuseReentry_run _ _ _ _).trans (if_pos hunder)
  · cases hbudget : game.budget with
    | zero =>
      have hfull : game.board.settings.maxDispatchDepth ≤ game.board.dispatching.length := by
        unfold Game.budget at hbudget
        omega
      have hfault : fault = .depthExceeded game.board.settings.maxDispatchDepth := by
        simpa [refusal?, hunder, hfull] using h.symm
      subst hfault
      exact (refuseReentry_run _ _ _ _).trans (if_neg hunder)
    | succ n =>
      have hspare : ¬game.board.settings.maxDispatchDepth ≤ game.board.dispatching.length := by
        unfold Game.budget at hbudget
        omega
      cases hplay : game.board.contains surface with
      | true => simp [refusal?, hunder, hspare, hplay] at h
      | false =>
        have hfault : fault = .unknownEntity surface := by
          simpa [refusal?, hunder, hspare, hplay] using h.symm
        subst hfault
        refine ((refuseReentry_run _ _ _ _).trans (if_neg hunder)).trans ?_
        simp only [pass_run, character?_eq_none hplay]

lemma fireWithin_answered (args : Payload) (h : refusal? game.board surface event = none) :
    Game.fireWithin game.budget surface event args game =
      if listenersAt game.board surface event = [] then .ok () game
      else
        (attempt (Game.callEach (Game.fireWithin (game.budget - 1)) surface event args
            (listenersAt game.board surface event)) >>=
          fun result => onBoard Game.leave >>= fun _ => settle result)
          { game with board := entered game.board surface event } := by
  obtain ⟨hunder, hspare, hplay⟩ := refusal?_eq_none_iff.mp h
  obtain ⟨c, hc⟩ := Option.isSome_iff_exists.mp ((character?_isSome game.board surface).trans hplay)
  have hlisteners : listenersAt game.board surface event = c.listeners.listFor event := by
    simp [listenersAt, hc]
  obtain ⟨n, hbudget⟩ : ∃ n, game.budget = n + 1 :=
    Nat.exists_eq_succ_of_ne_zero (by unfold Game.budget; omega)
  rw [hbudget, hlisteners]
  refine ((refuseReentry_run _ _ _ _).trans (if_neg hunder)).trans ?_
  simp only [pass_run, hc]
  rfl

/-- The occurrences that are fired above what is put off are fired within the room there is. -/
lemma firingAbove_run {base : Game σ} {frames : List (TaskFrame σ)}
    (h : Nested base.board frames game.board) (surface : EntityId) (event : String)
    (args : Payload) :
    firingAbove base.budget frames surface event args game =
      Game.fireWithin game.budget surface event args game := by
  have hbudget : game.budget = base.budget - (passes frames).length := by
    unfold Game.budget
    rw [h.settings_eq, h.dispatching_eq, List.length_append]
    omega
  unfold firingAbove
  cases hpasses : passes frames with
  | nil => rfl
  | cons occurrence under => rw [hbudget, hpasses]

end Firing

/-! ### Steps -/

section Steps

variable {n : Nat} (frames : List (TaskFrame σ)) (game : Game σ)

lemma remainder_startFiring {base : Game σ} (h : Nested base.board frames game.board)
    (surface : EntityId) (event : String) (args : Payload) :
    remainder base.budget (startFiring game frames surface event args) =
      remainder base.budget ⟨.fire surface event args, frames, game⟩ := by
  have hfire := firingAbove_run h surface event args
  unfold startFiring
  cases hrefusal : refusal? game.board surface event with
  | some fault => exact remainder_begin (hfire.trans (fireWithin_refused args hrefusal)).symm
  | none =>
    have hrun := hfire.trans (fireWithin_answered args hrefusal)
    cases hlist : listenersAt game.board surface event with
    | nil =>
      rw [hlist, if_pos rfl] at hrun
      exact remainder_begin hrun.symm
    | cons entry rest =>
      rw [hlist, if_neg (by simp)] at hrun
      refine remainder_push (Eq.trans ?_ hrun.symm)
      have hbudget : base.budget - (passes frames).length - 1 = game.budget - 1 := by
        unfold Game.budget
        rw [h.settings_eq, h.dispatching_eq, List.length_append]
        omega
      have habove : (firingAbove base.budget
          (.pass surface event args (entry :: rest) :: frames) : Firing σ) =
          Game.fireWithin (game.budget - 1) := by
        rw [← hbudget, Nat.sub_sub]
        rfl
      rw [habove]
      rfl

lemma remainder_startDamage (source : Option EntityId) (target : EntityId) (amount : Amount) :
    remainder n (startDamage game frames source target amount) =
      remainder n ⟨.damage source target amount, frames, game⟩ := by
  unfold startDamage
  cases hlower : onBoard (Board.lowerStat target Stat.health amount) game with
  | error fault game' =>
    have hrun : Game.dealDamage (firingAbove n frames) source target amount game =
        .error fault game' := by
      unfold Game.dealDamage
      rw [bind_run, hlower]
    exact remainder_begin hrun.symm
  | ok value game' =>
    have hrun : Game.dealDamage (firingAbove n frames) source target amount game =
        (firingAbove n frames target Occurrence.damaged (damageReport source target amount) >>=
          fun _ => frameMeaning (firingAbove n frames)
            (.tell target (damageReport source target amount)) (.ok ())) game' := by
      unfold Game.dealDamage
      rw [bind_run, hlower]
      rfl
    refine remainder_push (Eq.trans ?_ hrun.symm)
    exact congrFun (attempt_bind_settle_bind _ _) game'

lemma remainder_startAction (action : Action) (target : EntityId) :
    remainder n (startAction game frames target action) =
      remainder n ⟨.act action target, frames, game⟩ := by
  cases action with
  | change change => exact remainder_after_done rfl
  | damage amount => exact remainder_begin rfl
  | heal amount => exact remainder_after_done rfl

lemma remainder_startHandling (id : ListenerId) (listener : Listener) (args : Payload)
    (h : Game.call (firingAbove n frames) id listener args game =
      Game.handle (firingAbove n frames) id args listener.handler game) :
    remainder n (startHandling game frames id args listener.handler) =
      remainder n ⟨.call id listener args, frames, game⟩ := by
  cases hhandler : listener.handler with
  | trigger owner action targeting =>
    rw [hhandler] at h
    simp only [startHandling]
    cases htarget : targeting.resolve game.board owner args.focus args.other with
    | some target =>
      refine remainder_begin (Eq.symm (h.trans ?_))
      simp [Game.handle, htarget, taskMeaning]
    | none =>
      refine remainder_begin (Eq.symm (h.trans ?_))
      simp [Game.handle, htarget, taskMeaning]
  | endAura aura =>
    rw [hhandler] at h
    exact remainder_after_done h
  | script =>
    rw [hhandler] at h
    simp only [startHandling]
    cases hscript : Table.get? game.scripts id with
    | some body =>
      refine remainder_begin (Eq.symm (h.trans ?_))
      simp [Game.handle, hscript, taskMeaning]
    | none =>
      refine remainder_begin (Eq.symm (h.trans ?_))
      simp [Game.handle, hscript, taskMeaning]

lemma remainder_startCall (id : ListenerId) (listener : Listener) (args : Payload) :
    remainder n (startCall game frames id listener args) =
      remainder n ⟨.call id listener args, frames, game⟩ := by
  have hrun : Game.call (firingAbove n frames) id listener args game =
      if listener.gate.all fun gate => gate.1.holds game.board gate.2 args then
        Game.handle (firingAbove n frames) id args listener.handler game
      else .ok () game := by
    unfold Game.call
    cases listener.gate with
    | none => rfl
    | some gate =>
      by_cases hholds : gate.1.holds game.board gate.2 args
      · simp [hholds]
      · simp [hholds]
  unfold startCall
  split_ifs at hrun ⊢
  · exact remainder_startHandling frames game id listener args hrun
  · exact remainder_begin hrun.symm

lemma summon_run (fire : Firing σ) (player : PlayerId) (spot : Option Nat) (name : String)
    (attack health : Amount) (next : Except Fault EntityId → GameM σ Unit) (game : Game σ) :
    (attempt (Game.summon fire player spot name attack health) >>= next) game =
      match onBoard (Board.placeMinion player spot name attack health) game with
      | .ok id game =>
        (attempt (fire player.hero Occurrence.minionSummoned { focus := some id }) >>=
          fun result => next (result.map fun _ => id)) game
      | .error fault game => next (.error fault) game := by
  unfold Game.summon
  cases hplace : onBoard (Board.placeMinion player spot name attack health) game with
  | error fault game' => rw [bind_run, attempt_bind_error (attempt_run_error hplace)]
  | ok id game' =>
    rw [bind_run, attempt_bind_ok (attempt_run_ok hplace), attempt_bind_pure, ← bind_run,
      bind_assoc]
    rfl

lemma remainder_startOperation (operation : Operation)
    (next : Except Fault operation.Reply → Program σ) :
    remainder n (startOperation game frames operation next) =
      remainder n ⟨.run (.perform operation next), frames, game⟩ := by
  by_cases hfires : Fires operation
  · cases operation with
    | summon player spot name attack health =>
      have hrun := summon_run (firingAbove n frames) player spot name attack health
        (fun result => Game.run (firingAbove n frames) (next result)) game
      simp only [startOperation]
      cases hplace : onBoard (Board.placeMinion player spot name attack health) game with
      | error fault game' =>
        rw [hplace] at hrun
        exact remainder_begin hrun.symm
      | ok id game' =>
        rw [hplace] at hrun
        exact remainder_push hrun.symm
    | dealDamage source target amount => exact remainder_push rfl
    | endTurn =>
      have hturn : (attempt (firingAbove n frames game.board.activePlayer.hero Occurrence.turnEnded
            { focus := some game.board.activePlayer.hero }) >>=
          frameMeaning (firingAbove n frames) .passTurn) game =
          Game.endTurn (firingAbove n frames) game :=
        congrFun (attempt_bind_settle_bind _ _) game
      have hpush : remainder n (startOperation game frames .endTurn next) =
          (attempt (Game.endTurn (firingAbove n frames)) >>= unwind n (.resume next :: frames))
            game := by
        refine (remainder_cons _).trans ?_
        rw [bind_run, bind_run, ← attempt_congr hturn]
        rfl
      exact hpush.trans (congrFun (attempt_of_attempt_bind _ _ _) game).symm
    | fire surface event args => exact remainder_push rfl
    | act action target => exact remainder_push rfl
    | _ => exact hfires.elim
  · obtain ⟨work, -, hperform⟩ := work_of_not_fires hfires
    have hrun : taskMeaning (firingAbove n frames) (.run (.perform operation next)) =
        attempt (onBoard work) >>= fun result =>
          taskMeaning (firingAbove n frames) (.run (next result)) := by
      rw [← hperform (firingAbove n frames)]
      rfl
    rw [startOperation_of_not_fires game frames hfires, hperform]
    exact remainder_after (congrFun hrun game)

lemma remainder_startProgram (program : Program σ) :
    remainder n (startProgram game frames program) = remainder n ⟨.run program, frames, game⟩ := by
  cases program with
  | finish result => exact remainder_begin rfl
  | look next => exact remainder_begin rfl
  | note update next => exact remainder_begin rfl
  | perform operation next => exact remainder_startOperation frames game operation next
  | subscribe surface event body next =>
    have hrun : taskMeaning (firingAbove n frames) (.run (.subscribe surface event body next)) =
        attempt (Game.subscribe surface event body) >>= fun result =>
          taskMeaning (firingAbove n frames) (.run (next result)) := rfl
    exact remainder_after (congrFun hrun game)
  | subscribeEvent event target body next =>
    have hrun : taskMeaning (firingAbove n frames)
        (.run (.subscribeEvent event target body next)) =
        attempt (Game.subscribeEvent event target body) >>= fun result =>
          taskMeaning (firingAbove n frames) (.run (next result)) := rfl
    exact remainder_after (congrFun hrun game)

lemma passMeaning_cons (fire : Firing σ) (surface : EntityId) (event : String) (args : Payload)
    (entry : ListenerId × Listener) (rest : List (ListenerId × Listener)) (game : Game σ) :
    frameMeaning fire (.pass surface event args (entry :: rest)) (.ok ()) game =
      if game.board.isBound surface event entry.1 then
        (attempt (Game.call fire entry.1 entry.2 args) >>=
          frameMeaning fire (.pass surface event args rest)) game
      else frameMeaning fire (.pass surface event args rest) (.ok ()) game := by
  have hok : ∀ list, frameMeaning fire (.pass surface event args list) (.ok ()) =
      attempt (Game.callEach fire surface event args list) >>=
        fun result => onBoard Game.leave >>= fun _ => settle result := fun _ => rfl
  have hnext := callEach_cons_run fire surface event args entry rest game
  split_ifs at hnext ⊢
  · rw [hok, bind_run, attempt_congr hnext, attempt_bind, ← bind_run, bind_assoc]
    rfl
  · rw [hok, hok, bind_run, bind_run, attempt_congr hnext]

lemma remainder_takenUp (result : Except Fault Unit) (frame : TaskFrame σ) :
    remainder n (takeUp game frames frame result) =
      remainder n ⟨.done result, frame :: frames, game⟩ := by
  cases frame with
  | resume next => exact remainder_takeUp rfl
  | tell target args =>
    cases result with
    | error fault => exact remainder_takeUp rfl
    | ok _ =>
      have hrun : frameMeaning (firingAbove n frames) (.tell target args) (.ok ()) game =
          (match game.board.controller? target with
            | some player => firingAbove n frames player.hero Occurrence.characterDamaged args
            | none => pure ()) game := rfl
      simp only [takeUp]
      cases hcontroller : game.board.controller? target with
      | some player =>
        rw [hcontroller] at hrun
        exact remainder_takeUp hrun.symm
      | none =>
        rw [hcontroller] at hrun
        exact remainder_takeUp hrun.symm
  | passTurn =>
    cases result with
    | error fault => exact remainder_takeUp rfl
    | ok _ => exact remainder_takeUp rfl
  | pass surface event args rest =>
    cases result with
    | error fault => exact remainder_takeUp rfl
    | ok _ =>
      cases rest with
      | nil => exact remainder_takeUp rfl
      | cons entry rest =>
        have hnext := passMeaning_cons
          (firingAbove n (.pass surface event args rest :: frames)) surface event args entry rest
          game
        simp only [takeUp, callNext]
        split_ifs at hnext ⊢
        · exact remainder_replace hnext.symm
        · exact remainder_replace hnext.symm

/-- What is still to be done comes to the same before and after each step. -/
lemma remainder_step {base : Game σ} {c c' : Config σ}
    (h : Nested base.board c.frames c.game.board) (hstep : step c = some c') :
    remainder base.budget c' = remainder base.budget c := by
  obtain ⟨task, frames, game⟩ := c
  cases task with
  | fire surface event args =>
    cases hstep
    exact remainder_startFiring frames game h surface event args
  | damage source target amount =>
    cases hstep
    exact remainder_startDamage frames game source target amount
  | act action target =>
    cases hstep
    exact remainder_startAction frames game action target
  | call id listener args =>
    cases hstep
    exact remainder_startCall frames game id listener args
  | run program =>
    cases hstep
    exact remainder_startProgram frames game program
  | done result =>
    cases frames with
    | nil => cases hstep
    | cons frame frames =>
      cases hstep
      exact remainder_takenUp frames game result frame

end Steps

lemma remainder_reaches (base : Game σ) {c c' : Config σ}
    (h : Nested base.board c.frames c.game.board) (hreaches : Reaches c c') :
    remainder base.budget c' = remainder base.budget c := by
  induction hreaches with
  | refl => rfl
  | tail hfirst hlast ih =>
    exact (remainder_step (h.stirred (Reaches.stirred hfirst)) hlast).trans ih

end CardEffects.Proofs
