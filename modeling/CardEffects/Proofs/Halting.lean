import CardEffects.Proofs.Strides

/-!
# Halting

No game goes on forever. What is put off waits for the end of a task, so a task ends if, after all
that it can come to, what is put off halts. The tasks that fire nothing are done at one go; a
program is a tree; a pass walks the list that it began with; and an occurrence that is let through
leaves room for one less. Which programs are kept for the subscriptions does not matter.
-/

namespace CardEffects.Proofs

variable {σ α : Type}

/-- Whether a game cannot go on forever from a configuration. -/
def Halts (c : Config σ) : Prop :=
  Acc (fun c' c => Stirs c c') c

lemma halts_of_step {c c' : Config σ} (h : step c = some c')
    (hnext : ∀ game : Game σ, game.board = c'.game.board → Halts ⟨c'.task, c'.frames, game⟩) :
    Halts c := by
  refine ⟨c, fun c'' hstirs => ?_⟩
  obtain ⟨game, hstep, hboard⟩ := hstirs
  obtain rfl := Option.some.inj (h.symm.trans hstep)
  exact hnext c''.game hboard

lemma halts_at_end (result : Except Fault Unit) (game : Game σ) :
    Halts ⟨.done result, [], game⟩ := by
  refine ⟨_, fun c' hstirs => ?_⟩
  obtain ⟨game', hstep, -⟩ := hstirs
  cases hstep

/-- Two games with the same settings and the same occurrences under way. -/
abbrev SameStack : Game σ → Game σ → Prop :=
  Same fun game => (game.board.settings, game.board.dispatching)

lemma sameStack_of_works {game game' : Game σ} (h : Works game.board game'.board) :
    SameStack game game' :=
  congrArg (fun c : Settings × List (EntityId × String) × PlayerId × Nat => (c.1, c.2.1))
    h.course_eq

lemma sameStack_of_board {game game' : Game σ} (h : game'.board = game.board) :
    SameStack game game' := by
  unfold SameStack Same
  simp only [h]

lemma SameStack.budget_eq {game game' : Game σ} (h : SameStack game game') :
    game'.budget = game.budget := by
  obtain ⟨hsettings, hstack⟩ := Prod.mk.inj h
  unfold Game.budget
  rw [hsettings, hstack]

/-- Whether what is put off halts whenever it is taken up with the occurrences under way that are
under way now. -/
def Awaits (frames : List (TaskFrame σ)) (game : Game σ) : Prop :=
  ∀ result game', SameStack game game' → Halts ⟨.done result, frames, game'⟩

lemma Awaits.congr {frames : List (TaskFrame σ)} {game game' : Game σ} (h : Awaits frames game)
    (hsame : SameStack game game') : Awaits frames game' :=
  fun result game'' hsame' => h result game'' (Trans.trans hsame hsame')

/-- Whether a task halts before all that awaits it, with room for `n` more occurrences. -/
def Ends (n : Nat) (task : Task σ) : Prop :=
  ∀ frames game, game.budget = n → Awaits frames game → Halts ⟨task, frames, game⟩

section Tasks

variable {n : Nat}

lemma Ends.congr {task : Task σ} (h : Ends n task) {frames : List (TaskFrame σ)}
    {game game' : Game σ} (hbudget : game.budget = n) (hawaits : Awaits frames game) (hsame : SameStack game game') :
    Halts ⟨task, frames, game'⟩ :=
  h frames game' (hsame.budget_eq.trans hbudget) (hawaits.congr hsame)

lemma ends_done (result : Except Fault Unit) : Ends n (.done result : Task σ) :=
  fun _ game _ hawaits => hawaits result game rfl

lemma ends_of_step {task task' : Task σ} (h : Ends n task')
    {frames : List (TaskFrame σ)} {game game' : Game σ} (hbudget : game.budget = n)
    (hawaits : Awaits frames game) (hsame : SameStack game game')
    (hstep : step ⟨task, frames, game⟩ = some ⟨task', frames, game'⟩) :
    Halts ⟨task, frames, game⟩ :=
  halts_of_step hstep fun _ hboard =>
    h.congr hbudget hawaits (Trans.trans hsame (sameStack_of_board hboard))

lemma ends_after {task : Task σ} {x : GameM σ α} (h : Within WorksOn x)
    {next : Except Fault α → Task σ} (hnext : ∀ result, Ends n (next result))
    {frames : List (TaskFrame σ)} {game : Game σ} (hbudget : game.budget = n)
    (hawaits : Awaits frames game)
    (hstep : step ⟨task, frames, game⟩ = some (.after (x game) next frames)) :
    Halts ⟨task, frames, game⟩ := by
  unfold Config.after at hstep
  cases hrun : x game with
  | ok a game' =>
    rw [hrun] at hstep
    exact ends_of_step (hnext _) hbudget hawaits (sameStack_of_works (h.works_of_ok hrun)) hstep
  | error fault game' =>
    rw [hrun] at hstep
    exact ends_of_step (hnext _) hbudget hawaits (sameStack_of_works (h.works_of_error hrun))
      hstep

lemma awaits_resume {next : Except Fault Unit → Program σ}
    (hnext : ∀ result, Ends n (.run (next result))) {frames : List (TaskFrame σ)} {game : Game σ}
    (hbudget : game.budget = n) (hawaits : Awaits frames game) :
    Awaits (.resume next :: frames) game :=
  fun result _ hsame => halts_of_step rfl fun _ hboard =>
    (hnext result).congr hbudget hawaits (Trans.trans hsame (sameStack_of_board hboard))

variable (hfire : ∀ surface event args, Ends n (.fire surface event args : Task σ))

include hfire

lemma awaits_tell (target : EntityId) (args : Payload) {frames : List (TaskFrame σ)} {game : Game σ}
    (hbudget : game.budget = n) (hawaits : Awaits frames game) :
    Awaits (.tell target args :: frames) game := by
  intro result game' hsame
  cases result with
  | error fault =>
    exact halts_of_step rfl fun _ hboard =>
      hawaits _ _ (Trans.trans hsame (sameStack_of_board hboard))
  | ok _ =>
    cases hcontroller : game'.board.controller? target with
    | none =>
      have hstep : step ⟨.done (.ok ()), .tell target args :: frames, game'⟩ =
          some ⟨.done (.ok ()), frames, game'⟩ := by
        simp only [step, takeUp, hcontroller]
      exact halts_of_step hstep fun _ hboard =>
        hawaits _ _ (Trans.trans hsame (sameStack_of_board hboard))
    | some player =>
      have hstep : step ⟨.done (.ok ()), .tell target args :: frames, game'⟩ =
          some ⟨.fire player.hero Occurrence.characterDamaged args, frames, game'⟩ := by
        simp only [step, takeUp, hcontroller]
      exact halts_of_step hstep fun _ hboard =>
        (hfire _ _ _).congr hbudget hawaits (Trans.trans hsame (sameStack_of_board hboard))

lemma awaits_passTurn {frames : List (TaskFrame σ)} {game : Game σ} (hbudget : game.budget = n)
    (hawaits : Awaits frames game) : Awaits (.passTurn :: frames) game := by
  intro result game' hsame
  cases result with
  | error fault =>
    exact halts_of_step rfl fun _ hboard =>
      hawaits _ _ (Trans.trans hsame (sameStack_of_board hboard))
  | ok _ =>
    have hturn : SameStack game' (turnPassed game') := rfl
    exact halts_of_step rfl fun _ hboard => (hfire _ _ _).congr hbudget hawaits
      (Trans.trans hsame (Trans.trans hturn (sameStack_of_board hboard)))

lemma ends_damage (source : Option EntityId) (target : EntityId) (amount : Amount) :
    Ends n (.damage source target amount : Task σ) := by
  intro frames game hbudget hawaits
  have hlower : Within WorksOn
      (onBoard (Board.lowerStat target Stat.health amount) : GameM σ Amount) :=
    works_onBoard (within_updateStat _ _ _)
  cases hrun : onBoard (Board.lowerStat target Stat.health amount) game with
  | error fault game' =>
    have hstep : step ⟨.damage source target amount, frames, game⟩ =
        some ⟨.done (.error fault), frames, game'⟩ := by
      simp only [step, startDamage, hrun]
    exact ends_of_step (ends_done _) hbudget hawaits
      (sameStack_of_works (hlower.works_of_error hrun)) hstep
  | ok value game' =>
    have hsame : SameStack game game' := sameStack_of_works (hlower.works_of_ok hrun)
    have hstep : step ⟨.damage source target amount, frames, game⟩ =
        some ⟨.fire target Occurrence.damaged (damageReport source target amount),
          .tell target (damageReport source target amount) :: frames, game'⟩ := by
      simp only [step, startDamage, hrun]
    exact halts_of_step hstep fun _ hboard => (hfire _ _ _).congr hbudget
      (awaits_tell hfire _ _ hbudget hawaits) (Trans.trans hsame (sameStack_of_board hboard))

lemma ends_act (action : Action) (target : EntityId) : Ends n (.act action target : Task σ) := by
  intro frames game hbudget hawaits
  cases action with
  | change change =>
    exact ends_after (works_onBoard (within_make change target)) ends_done hbudget hawaits rfl
  | damage amount =>
    exact ends_of_step (ends_damage hfire none target amount) hbudget hawaits (refl game) rfl
  | heal amount =>
    exact ends_after (works_onBoard (within_heal target amount)) ends_done hbudget hawaits rfl

lemma ends_run (program : Program σ) : Ends n (.run program) := by
  induction program with
  | finish result =>
    exact fun frames game hbudget hawaits =>
      ends_of_step (ends_done result) hbudget hawaits (refl game) rfl
  | look next ih =>
    exact fun frames game hbudget hawaits =>
      ends_of_step (ih game.board) hbudget hawaits (refl game) rfl
  | note update next ih =>
    intro frames game hbudget hawaits
    have hsame : SameStack game { game with host := update game.host } := rfl
    exact ends_of_step (ih (update game.host)) hbudget hawaits hsame rfl
  | subscribe surface event body next _ ih =>
    exact fun frames game hbudget hawaits =>
      ends_after (works_subscribe surface event body) ih hbudget hawaits rfl
  | subscribeEvent event target body next _ ih =>
    exact fun frames game hbudget hawaits =>
      ends_after (works_subscribeEvent event target body) ih hbudget hawaits rfl
  | perform operation next ih =>
    intro frames game hbudget hawaits
    by_cases hfires : Fires operation
    · cases operation with
      | summon player spot name attack health =>
        have hplace : Within WorksOn
            (onBoard (Board.placeMinion player spot name attack health) : GameM σ EntityId) :=
          works_onBoard (within_placeMinion _ _ _ _ _)
        cases hrun : onBoard (Board.placeMinion player spot name attack health) game with
        | error fault game' =>
          have hstep : step ⟨.run (.perform (.summon player spot name attack health) next), frames,
              game⟩ = some ⟨.run (next (.error fault)), frames, game'⟩ := by
            simp only [step, startProgram, startOperation, hrun]
          exact ends_of_step (ih _) hbudget hawaits
            (sameStack_of_works (hplace.works_of_error hrun)) hstep
        | ok id game' =>
          have hstep : step ⟨.run (.perform (.summon player spot name attack health) next), frames,
              game⟩ = some ⟨.fire player.hero Occurrence.minionSummoned { focus := some id },
                .resume (fun result => next (result.map fun _ => id)) :: frames, game'⟩ := by
            simp only [step, startProgram, startOperation, hrun]
          exact halts_of_step hstep fun _ hboard => (hfire _ _ _).congr hbudget
            (awaits_resume (fun _ => ih _) hbudget hawaits)
            (Trans.trans (sameStack_of_works (hplace.works_of_ok hrun))
              (sameStack_of_board hboard))
      | dealDamage source target amount =>
        exact halts_of_step rfl fun _ hboard => (ends_damage hfire _ _ _).congr hbudget
          (awaits_resume ih hbudget hawaits) (sameStack_of_board hboard)
      | endTurn =>
        exact halts_of_step rfl fun _ hboard => (hfire _ _ _).congr hbudget
          (awaits_passTurn hfire hbudget (awaits_resume ih hbudget hawaits))
          (sameStack_of_board hboard)
      | fire surface event args =>
        exact halts_of_step rfl fun _ hboard => (hfire _ _ _).congr hbudget
          (awaits_resume ih hbudget hawaits) (sameStack_of_board hboard)
      | act action target =>
        exact halts_of_step rfl fun _ hboard => (ends_act hfire _ _).congr hbudget
          (awaits_resume ih hbudget hawaits) (sameStack_of_board hboard)
      | _ => exact hfires.elim
    · obtain ⟨work, hworks, hperform⟩ := work_of_not_fires hfires
      have hstep : step ⟨.run (.perform operation next), frames, game⟩ =
          some (.after (onBoard work game) (fun result => .run (next result)) frames) := by
        rw [← hperform still]
        exact congrArg some (startOperation_of_not_fires game frames hfires next)
      exact ends_after (works_onBoard (hworks Works)) ih hbudget hawaits hstep

lemma ends_handling (id : ListenerId) (listener : Listener) (args : Payload)
    {frames : List (TaskFrame σ)} {game : Game σ} (hbudget : game.budget = n)
    (hawaits : Awaits frames game)
    (hstep : step ⟨.call id listener args, frames, game⟩ =
      some (startHandling game frames id args listener.handler)) :
    Halts ⟨.call id listener args, frames, game⟩ := by
  cases hhandler : listener.handler with
  | trigger owner action targeting =>
    cases htarget : targeting.resolve game.board owner args.focus args.other with
    | none =>
      simp only [hhandler, startHandling, htarget] at hstep
      exact ends_of_step (ends_done _) hbudget hawaits (refl game) hstep
    | some target =>
      simp only [hhandler, startHandling, htarget] at hstep
      exact ends_of_step (ends_act hfire action target) hbudget hawaits (refl game) hstep
  | endAura aura =>
    rw [hhandler] at hstep
    exact ends_after (works_onBoard (within_endAura id aura)) ends_done hbudget hawaits hstep
  | script =>
    cases hscript : Table.get? game.scripts id with
    | none =>
      simp only [hhandler, startHandling, hscript] at hstep
      exact ends_of_step (ends_done _) hbudget hawaits (refl game) hstep
    | some body =>
      simp only [hhandler, startHandling, hscript] at hstep
      exact ends_of_step (ends_run hfire (body args)) hbudget hawaits (refl game) hstep

lemma ends_call (id : ListenerId) (listener : Listener) (args : Payload) :
    Ends n (.call id listener args : Task σ) := by
  intro frames game hbudget hawaits
  have hstep : step ⟨.call id listener args, frames, game⟩ =
      some (startCall game frames id listener args) := rfl
  unfold startCall at hstep
  split_ifs at hstep
  · exact ends_handling hfire id listener args hbudget hawaits hstep
  · exact ends_of_step (ends_done _) hbudget hawaits (refl game) hstep

lemma awaits_pass {base : Game σ} {frames : List (TaskFrame σ)} (hawaits : Awaits frames base)
    (surface : EntityId) (event : String) (args : Payload)
    (list : List (ListenerId × Listener)) {game : Game σ} (hbudget : game.budget = n)
    (hsettings : game.board.settings = base.board.settings)
    (hstack : game.board.dispatching = (surface, event) :: base.board.dispatching) :
    Awaits (.pass surface event args list :: frames) game := by
  have hover : ∀ game', SameStack game game' → Awaits frames (concluded game') := by
    intro game' hsame
    obtain ⟨hsettings', hstack'⟩ := Prod.mk.inj hsame
    refine hawaits.congr ?_
    unfold concluded SameStack Same
    simp only [hsettings', hsettings, hstack', hstack, List.tail_cons]
  induction list with
  | nil =>
    intro result game' hsame
    have hstep : step ⟨.done result, .pass surface event args [] :: frames, game'⟩ =
        some ⟨.done result, frames, concluded game'⟩ := by
      cases result <;> rfl
    exact halts_of_step hstep fun _ hboard =>
      hover game' hsame result _ (sameStack_of_board hboard)
  | cons entry rest ih =>
    intro result game' hsame
    cases result with
    | error fault =>
      exact halts_of_step rfl fun _ hboard =>
        hover game' hsame (.error fault) _ (sameStack_of_board hboard)
    | ok _ =>
      have hstep :
          step ⟨.done (.ok ()), .pass surface event args (entry :: rest) :: frames, game'⟩ =
            some (callNext game' frames surface event args (entry :: rest)) := rfl
      simp only [callNext] at hstep
      split_ifs at hstep
      · exact halts_of_step hstep fun _ hboard =>
          (ends_call hfire entry.1 entry.2 args).congr hbudget ih
            (Trans.trans hsame (sameStack_of_board hboard))
      · exact halts_of_step hstep fun _ hboard =>
          ih _ _ (Trans.trans hsame (sameStack_of_board hboard))

end Tasks

/-- An occurrence ends. The induction is on how many more occurrences there is room for. -/
lemma ends_fire (n : Nat) (surface : EntityId) (event : String) (args : Payload) :
    Ends n (.fire surface event args : Task σ) := by
  induction n generalizing surface event args with
  | zero =>
    intro frames game hbudget hawaits
    have hfull : ∃ fault, refusal? game.board surface event = some fault := by
      refine Option.ne_none_iff_exists'.mp fun hrefusal => ?_
      have hspare := (refusal?_eq_none_iff.mp hrefusal).2.1
      unfold Game.budget at hbudget
      omega
    obtain ⟨fault, hrefusal⟩ := hfull
    have hstep : step ⟨.fire surface event args, frames, game⟩ =
        some ⟨.done (.error fault), frames, game⟩ := by
      simp only [step, startFiring, hrefusal]
    exact ends_of_step (ends_done _) hbudget hawaits (refl game) hstep
  | succ n ih =>
    intro frames game hbudget hawaits
    have hstep : step ⟨.fire surface event args, frames, game⟩ =
        some (startFiring game frames surface event args) := rfl
    unfold startFiring at hstep
    cases hrefusal : refusal? game.board surface event with
    | some fault =>
      simp only [hrefusal] at hstep
      exact ends_of_step (ends_done _) hbudget hawaits (refl game) hstep
    | none =>
      cases hlist : listenersAt game.board surface event with
      | nil =>
        simp only [hrefusal, hlist] at hstep
        exact ends_of_step (ends_done _) hbudget hawaits (refl game) hstep
      | cons entry rest =>
        simp only [hrefusal, hlist] at hstep
        refine halts_of_step hstep fun game' hboard => ?_
        have hbudget' : game'.budget = n := by
          unfold Game.budget at hbudget ⊢
          rw [hboard]
          simp only [entered, List.length_cons]
          omega
        exact awaits_pass ih hawaits surface event args _ hbudget' (by rw [hboard]; rfl)
          (by rw [hboard]; rfl) _ game' (refl game')

lemma ends_always (task : Task σ) (n : Nat) : Ends n task := by
  cases task with
  | fire surface event args => exact ends_fire n surface event args
  | damage source target amount => exact ends_damage (ends_fire n) source target amount
  | act action target => exact ends_act (ends_fire n) action target
  | call id listener args => exact ends_call (ends_fire n) id listener args
  | run program => exact ends_run (ends_fire n) program
  | done result => exact ends_done result

/-- Whether all that is put off halts. -/
def Waits (frames : List (TaskFrame σ)) : Prop :=
  ∀ result game, Halts ⟨.done result, frames, game⟩

lemma Waits.halts {frames : List (TaskFrame σ)} (h : Waits frames) (task : Task σ) (game : Game σ) :
    Halts ⟨task, frames, game⟩ :=
  ends_always task game.budget frames game rfl fun result game' _ => h result game'

lemma Waits.pass {frames : List (TaskFrame σ)} (h : Waits frames) (surface : EntityId)
    (event : String) (args : Payload) (list : List (ListenerId × Listener)) :
    Waits (.pass surface event args list :: frames) := by
  induction list with
  | nil =>
    refine fun result game => ⟨_, fun c' ⟨game', hstep, _⟩ => ?_⟩
    obtain ⟨task', frames', game''⟩ := c'
    cases stride_of_step hstep with
    | leave hrest => exact h.halts _ _
    | goOn task' hplain => exact hplain.elim
    | work task' added hbusy _ _ => exact hbusy.elim
  | cons entry rest ih =>
    refine fun result game => ⟨_, fun c' ⟨game', hstep, _⟩ => ?_⟩
    obtain ⟨task', frames', game''⟩ := c'
    cases stride_of_step hstep with
    | next task' => exact ih.halts _ _
    | leave hrest => exact h.halts _ _
    | goOn task' hplain => exact hplain.elim
    | work task' added hbusy _ _ => exact hbusy.elim

lemma waits (frames : List (TaskFrame σ)) : Waits frames := by
  induction frames with
  | nil => exact halts_at_end
  | cons frame frames ih =>
    cases frame with
    | pass surface event args list => exact ih.pass surface event args list
    | _ =>
      refine fun result game => ⟨_, fun c' ⟨game', hstep, _⟩ => ?_⟩
      obtain ⟨task', frames', game''⟩ := c'
      cases stride_of_step hstep with
      | work task' added hbusy _ _ => exact hbusy.elim
      | _ => exact ih.halts _ _

/-- Whatever has been put off and whichever occurrences are under way, the game halts. -/
lemma halts (c : Config σ) : Halts c :=
  (waits c.frames).halts c.task c.game

end CardEffects.Proofs
