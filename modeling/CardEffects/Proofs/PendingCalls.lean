import CardEffects.Proofs.DispatchPasses
import CardEffects.Proofs.Strides

/-!
# Pending calls

A pass lists the subscriptions in force when it begins and calls them as they were listed. As no
number is ever used twice, what it calls is what is in force under the number when its turn comes.
-/

namespace CardEffects.Proofs

variable {σ α : Type}

/-! ### Where calls come from -/

lemma after_task (outcome : EStateM.Result Fault (Game σ) α) (next : Except Fault α → Task σ)
    (frames : List (TaskFrame σ)) :
    ∃ result, (Config.after outcome next frames).task = next result := by
  unfold Config.after
  cases outcome with
  | ok a game => exact ⟨.ok a, rfl⟩
  | error fault game => exact ⟨.error fault, rfl⟩

def Calls : Task σ → Prop
  | .call _ _ _ => True
  | _ => False

section Starts

variable (game : Game σ) (frames : List (TaskFrame σ))

lemma startOperation_calls (operation : Operation)
    (next : Except Fault operation.Reply → Program σ) :
    ¬Calls (startOperation game frames operation next).task := by
  by_cases hfires : Fires operation
  · cases operation with
    | summon player place name attack health =>
      simp only [startOperation]
      cases onBoard (Board.placeMinion player place name attack health) game <;> exact not_false
    | dealDamage source target amount => exact not_false
    | endTurn => exact not_false
    | fire surface event args => exact not_false
    | act action target => exact not_false
    | _ => exact hfires.elim
  · rw [startOperation_of_not_fires game frames hfires]
    obtain ⟨result, htask⟩ := after_task (Game.perform still operation game)
      (fun result => .run (next result)) frames
    rw [htask]
    exact not_false

lemma startProgram_calls (program : Program σ) :
    ¬Calls (startProgram game frames program).task := by
  cases program with
  | finish result => exact not_false
  | look next => exact not_false
  | note update next => exact not_false
  | perform operation next => exact startOperation_calls game frames operation next
  | subscribe surface event body next =>
    obtain ⟨result, htask⟩ := after_task (Game.subscribe surface event body game)
      (fun result => .run (next result)) frames
    simp only [startProgram, htask]
    exact not_false
  | subscribeEvent event target body next =>
    obtain ⟨result, htask⟩ := after_task (Game.subscribeEvent event target body game)
      (fun result => .run (next result)) frames
    simp only [startProgram, htask]
    exact not_false

lemma startHandling_calls (id : ListenerId) (args : Payload) (handler : Handler) :
    ¬Calls (startHandling game frames id args handler).task := by
  cases handler with
  | trigger owner action targeting =>
    simp only [startHandling]
    cases targeting.resolve game.board owner args.focus args.other <;> exact not_false
  | endAura aura =>
    obtain ⟨result, htask⟩ := after_task (onBoard (Game.endAura id aura) game) .done frames
    simp only [startHandling, htask]
    exact not_false
  | script =>
    simp only [startHandling]
    cases Table.get? game.scripts id <;> exact not_false

lemma startAction_calls (target : EntityId) (action : Action) :
    ¬Calls (startAction game frames target action).task := by
  cases action with
  | change change =>
    obtain ⟨result, htask⟩ := after_task (onBoard (change.make target) game) .done frames
    simp only [startAction, htask]
    exact not_false
  | damage amount => exact not_false
  | heal amount =>
    obtain ⟨result, htask⟩ := after_task (onBoard (Board.heal target amount) game) .done frames
    simp only [startAction, htask]
    exact not_false

lemma startFiring_calls (surface : EntityId) (event : String) (args : Payload) :
    ¬Calls (startFiring game frames surface event args).task := by
  unfold startFiring
  cases refusal? game.board surface event with
  | some fault => exact not_false
  | none => cases listenersAt game.board surface event <;> exact not_false

lemma startDamage_calls (source : Option EntityId) (target : EntityId) (amount : Amount) :
    ¬Calls (startDamage game frames source target amount).task := by
  unfold startDamage
  cases onBoard (Board.lowerStat target Stat.health amount) game <;> exact not_false

lemma startCall_calls (id : ListenerId) (listener : Listener) (args : Payload) :
    ¬Calls (startCall game frames id listener args).task := by
  unfold startCall
  split
  · exact startHandling_calls game frames id args listener.handler
  · exact not_false

lemma takeUp_call {frame : TaskFrame σ} {result : Except Fault Unit} {id : ListenerId}
    {listener : Listener} {args : Payload}
    (htask : (takeUp game frames frame result).task = .call id listener args) :
    ∃ surface event rest, result = .ok () ∧
      frame = .pass surface event args ((id, listener) :: rest) ∧
      game.board.isBound surface event id = true ∧
      takeUp game frames frame result =
        ⟨.call id listener args, .pass surface event args rest :: frames, game⟩ := by
  cases frame with
  | resume next => cases htask
  | tell target args' =>
    cases result with
    | error fault => cases htask
    | ok _ =>
      simp only [takeUp] at htask
      cases hcontroller : game.board.controller? target <;>
        · rw [hcontroller] at htask
          cases htask
  | passTurn => cases result <;> cases htask
  | pass surface event args' list =>
    cases result with
    | error fault => cases htask
    | ok _ =>
      cases list with
      | nil => cases htask
      | cons entry rest =>
        simp only [takeUp, callNext] at htask
        split at htask
        · next hbound =>
          cases htask
          exact ⟨surface, event, rest, rfl, rfl, hbound, if_pos hbound⟩
        · cases htask

end Starts

/-- A call comes of a pass that goes on, and what is called is next on its list and in force. -/
lemma call_of_step {c c' : Config σ} (h : step c = some c') {id : ListenerId} {listener : Listener}
    {args : Payload} (htask : c'.task = .call id listener args) :
    ∃ surface event rest frames game,
      c = ⟨.done (.ok ()), .pass surface event args ((id, listener) :: rest) :: frames, game⟩ ∧
      game.board.isBound surface event id = true ∧
      c' = ⟨.call id listener args, .pass surface event args rest :: frames, game⟩ := by
  have hcalls : Calls c'.task := by rw [htask]; trivial
  obtain ⟨task, frames, game⟩ := c
  cases task with
  | fire surface event args =>
    cases h
    exact absurd hcalls (startFiring_calls game frames surface event args)
  | damage source target amount =>
    cases h
    exact absurd hcalls (startDamage_calls game frames source target amount)
  | act action target =>
    cases h
    exact absurd hcalls (startAction_calls game frames target action)
  | call id' listener' args' =>
    cases h
    exact absurd hcalls (startCall_calls game frames id' listener' args')
  | run program =>
    cases h
    exact absurd hcalls (startProgram_calls game frames program)
  | done result =>
    cases frames with
    | nil => cases h
    | cons frame frames =>
      cases h
      obtain ⟨surface, event, rest, rfl, rfl, hbound, hnext⟩ := takeUp_call game frames htask
      exact ⟨surface, event, rest, frames, game, rfl, hbound, hnext⟩

/-! ### What is called is in force -/

/-- What is known of the subscriptions that a pass is still to call. -/
structure Listed (b : Board) (surface : EntityId) (event : String)
    (rest : List (ListenerId × Listener)) : Prop where
  ordered : rest.Pairwise (·.1.raw < ·.1.raw)
  lt_next : ∀ entry ∈ rest, entry.1.raw < b.nextListener
  /-- What is in force under a number on the list is what was listed. -/
  unchanged : ∀ entry ∈ rest, ∀ listener, (entry.1, listener) ∈ listenersAt b surface event →
    listener = entry.2

section Listed

variable {b b' : Board} {surface : EntityId} {event : String}

lemma listed_listenersAt (h : ListenersFit b) (surface : EntityId) (event : String) :
    Listed b surface event (listenersAt b surface event) where
  ordered := h.ordered surface event
  lt_next _ hentry := h.lt_next hentry
  unchanged _ hentry _ hmem :=
    congrArg Prod.snd (List.inj_on_of_nodup_map (h.nodup surface event) hmem hentry rfl)

lemma Listed.tail {entry : ListenerId × Listener} {rest : List (ListenerId × Listener)}
    (h : Listed b surface event (entry :: rest)) : Listed b surface event rest where
  ordered := (List.pairwise_cons.mp h.ordered).2
  lt_next entry hentry := h.lt_next entry (List.mem_cons_of_mem _ hentry)
  unchanged entry hentry := h.unchanged entry (List.mem_cons_of_mem _ hentry)

lemma Listed.develops {rest : List (ListenerId × Listener)} (h : Listed b surface event rest)
    (hfit : ListenersFit b) (hdev : Develops b b') : Listed b' surface event rest where
  ordered := h.ordered
  lt_next entry hentry := lt_of_lt_of_le (h.lt_next entry hentry) (hfit.nextListener_le hdev)
  unchanged entry hentry listener hmem :=
    h.unchanged entry hentry listener (hfit.mem_of_develops hdev (h.lt_next entry hentry) hmem)

end Listed

/-- What a game calls is in force, and what it is still to call is as it was listed. -/
structure CallsFit (c : Config σ) : Prop where
  listenersFit : ListenersFit c.game.board
  called : ∀ {id listener args}, c.task = .call id listener args →
    ∃ surface event rest frames, c.frames = .pass surface event args rest :: frames ∧
      (id, listener) ∈ listenersAt c.game.board surface event
  listed : ∀ {surface event args rest}, .pass surface event args rest ∈ c.frames →
    Listed c.game.board surface event rest

lemma CallsFit.step {c c' : Config σ} (h : CallsFit c) (hstep : step c = some c') :
    CallsFit c' := by
  have hstride := stride_of_step hstep
  have hdev := hstride.develops
  refine ⟨h.listenersFit.develops hdev, fun {id listener args} htask => ?_,
    fun {surface event args rest} hmem => ?_⟩
  · obtain ⟨surface, event, rest, frames, game, rfl, hbound, rfl⟩ := call_of_step hstep htask
    refine ⟨surface, event, rest, frames, rfl, ?_⟩
    obtain ⟨listener', hmem⟩ := (isBound_iff _ _ _ _).mp hbound
    obtain rfl : listener' = listener :=
      (h.listed List.mem_cons_self).unchanged _ List.mem_cons_self listener' hmem
    exact hmem
  · rcases hstride.rest_cases hmem with hold | ⟨entry, hold⟩ | ⟨-, rfl⟩
    · exact (h.listed hold).develops h.listenersFit hdev
    · exact (h.listed hold).tail.develops h.listenersFit hdev
    · exact (listed_listenersAt h.listenersFit surface event).develops h.listenersFit hdev

lemma CallsFit.stirs {c c' : Config σ} (h : CallsFit c) (hstirs : Stirs c c') : CallsFit c' := by
  obtain ⟨game, hstep, hboard⟩ := hstirs
  obtain ⟨hfit, hcalled, hlisted⟩ := h.step hstep
  constructor
  · rw [hboard]
    exact hfit
  · rw [hboard]
    exact hcalled
  · rw [hboard]
    exact hlisted

lemma CallsFit.stirred {c c' : Config σ} (h : CallsFit c) (hstirred : Stirred c c') :
    CallsFit c' := by
  induction hstirred with
  | refl => exact h
  | tail _ hlast ih => exact ih.stirs hlast

lemma callsFit_of_stirred {settings : Settings} {host : σ} {game : Game σ}
    (hnew : Game.new settings host = .ok game) {program : Program σ} {c : Config σ}
    (h : Stirred ⟨.run program, [], game⟩ c) : CallsFit c := by
  refine CallsFit.stirred ⟨listenersFit_new (board_new hnew), fun htask => ?_, fun hmem => ?_⟩ h
  · cases htask
  · cases hmem

end CardEffects.Proofs
