import CardEffects.Proofs.Acts

/-!
# Chronicles

The chronicle of a run says act by act what the run does to its board, with all that subscriptions
do when they are called. It is read off the program as the run is, operation by operation, and
doing its acts one after another leads to the board of the run.
-/

namespace CardEffects.Proofs

/-- What an operation does to a board, act by act. -/
structure Tells {s α : Type} (boardOf : s → Board) (operation : EStateM Fault s α) where
  acts : s → List Act
  told : ∀ x, boardOf (leftBy operation x) = enact (boardOf x) (acts x)

namespace Tells

variable {s σ α β : Type} {boardOf : s → Board}

/-- An operation that does nothing to the board. -/
def silent {operation : EStateM Fault s α}
    (h : ∀ x, boardOf (leftBy operation x) = boardOf x) : Tells boardOf operation where
  acts _ := []
  told := h

def pure (a : α) : Tells boardOf (Pure.pure a : EStateM Fault s α) :=
  silent fun _ => rfl

def throw (fault : Fault) : Tells boardOf (MonadExcept.throw fault : EStateM Fault s α) :=
  silent fun _ => rfl

def get : Tells boardOf (MonadState.get : EStateM Fault s s) :=
  silent fun _ => rfl

def settle (result : Except Fault α) : Tells boardOf (settle result : EStateM Fault s α) :=
  silent fun x => congrArg boardOf (leftBy_settle result x)

/-- First one operation, then another with its result. -/
def bind {operation : EStateM Fault s α} {next : α → EStateM Fault s β}
    (first : Tells boardOf operation) (rest : ∀ a, Tells boardOf (next a)) :
    Tells boardOf (operation >>= next) where
  acts x := first.acts x ++
    match operation x with
    | .ok a x' => (rest a).acts x'
    | .error _ _ => []
  told x := by
    rw [enact_append, ← first.told]
    unfold leftBy
    rw [bind_run]
    cases hrun : operation x with
    | ok a x' => exact (rest a).told x'
    | error fault x' => rfl

/-- An operation whose result is made into another. -/
def yielding {operation : EStateM Fault s α} (h : Tells boardOf operation) (f : α → β) :
    Tells boardOf (operation >>= fun a => Pure.pure (f a)) where
  acts := h.acts
  told x := by
    have htold := h.told x
    unfold leftBy at *
    rw [bind_run]
    cases hrun : operation x <;> simpa [hrun] using htold

def ite {c : Prop} [Decidable c] {operation operation' : EStateM Fault s α}
    (h : Tells boardOf operation) (h' : Tells boardOf operation') :
    Tells boardOf (if c then operation else operation') where
  acts x := if c then h.acts x else h'.acts x
  told x := by
    split
    · exact h.told x
    · exact h'.told x

def attempt {operation : EStateM Fault s α} (h : Tells boardOf operation) :
    Tells boardOf (attempt operation) where
  acts := h.acts
  told x := (congrArg boardOf (leftBy_attempt operation x)).trans (h.told x)

/-- An operation on a board that is one act. -/
def act {operation : BoardM α} (act : Act) (h : ∀ b, leftBy operation b = leftBy act.run b) :
    Tells id operation where
  acts _ := [act]
  told := h

def quiet {operation : BoardM α} (h : Within Quiet operation) : Tells id operation :=
  act (.quiet (discard operation) h.discard) fun b => (leftBy_discard operation b).symm

def onBoard {operation : BoardM α} (h : Tells id operation) :
    Tells Game.board (onBoard operation : GameM σ α) where
  acts game := h.acts game.board
  told game := by
    have htold := h.told game.board
    unfold leftBy CardEffects.onBoard at *
    cases hrun : operation game.board with
    | ok a b => simpa [hrun] using htold
    | error fault b => simpa [hrun] using htold

end Tells

/-! ### Operations on boards -/

section Boards

def tellsCharacter (entity : EntityId) : Tells id (Board.character entity) :=
  .silent fun b => by
    unfold leftBy Board.character
    cases hc : b.character? entity <;> simp [hc]

def tellsListen (surface : EntityId) (event : String) (listener : Listener) :
    Tells id (Board.subscribe surface event listener) :=
  .act (.listen surface event listener) fun _ => (leftBy_discard _ _).symm

def tellsSubscribe (event : Event) (target : EntityId) (handler : Handler) :
    Tells id (event.subscribe target handler) :=
  Tells.get.bind fun _ => (Tells.settle _).bind fun _ => (tellsListen _ _ _).bind fun _ =>
    Tells.pure _

def tellsRelease (event : Event) (binding : Binding) : Tells id (event.unsubscribe binding) where
  acts _ :=
    if binding.event ≠ event.name then []
    else [.release binding.surface binding.event binding.listener]
  told b := by
    unfold Event.unsubscribe
    split <;> rfl

/-- An effect that is switched on by hand subscribes by itself. -/
def tellsSwitchOnEffect (effect : Effect) (owner : EntityId) :
    Tells id (effect.switchOn owner) where
  acts b :=
    if effect.isActive then []
    else (tellsSubscribe effect.event owner
      (.trigger owner effect.action effect.targeting)).acts b
  told b := by
    unfold Effect.switchOn
    split
    · rfl
    · exact ((tellsSubscribe _ _ _).yielding _).told b

def tellsSwitchOffEffect (effect : Effect) : Tells id effect.switchOff where
  acts b :=
    match effect.active with
    | some (_, binding) => (tellsRelease effect.event binding).acts b
    | none => []
  told b := by
    unfold Effect.switchOff
    cases effect.active with
    | some active => exact (tellsRelease effect.event active.2).told b
    | none => rfl

def tellsAddAura (holder : PlayerId) (owner : EntityId) (aura : Aura) :
    Tells id (Board.addAura holder owner aura) :=
  .act (.addAura holder owner aura) fun _ => (leftBy_discard _ _).symm

def tellsRemoveAura (aura : AuraId) : Tells id (Board.removeAura aura) :=
  .act (.removeAura aura) fun _ => rfl

def tellsRemoveAuras : (auras : List AuraId) → Tells id (Board.removeAuras auras)
  | [] => Tells.pure _
  | aura :: auras => (tellsRemoveAura aura).bind fun _ => tellsRemoveAuras auras

/-- A player aura that is switched on by hand subscribes by itself. If it cannot, the change is
taken back. -/
def tellsSwitchOnPlayerAura (aura : PlayerAura) (slot : Slot) : Tells id (aura.switchOn slot) where
  acts b :=
    if aura.active.isSome then []
    else
      ((Tells.quiet (quiet_make aura.change slot.owner)).bind fun _ =>
        (tellsSubscribe aura.ending slot.owner (.endAura slot.id)).attempt.bind fun result =>
          match result with
          | .ok binding => Tells.pure { aura with active := some (slot, binding) }
          | .error fault => (Tells.quiet (quiet_undo aura.change slot.owner)).bind fun _ =>
            Tells.throw fault).acts b
  told b := by
    unfold PlayerAura.switchOn
    split
    · rfl
    · exact Tells.told _ b

def tellsSwitchOffPlayerAura (aura : PlayerAura) : Tells id aura.switchOff where
  acts b :=
    match aura.active with
    | some (slot, binding) =>
      ((Tells.quiet (quiet_undo aura.change slot.owner)).bind fun _ =>
        tellsRelease aura.ending binding).acts b
    | none => []
  told b := by
    unfold PlayerAura.switchOff
    cases aura.active with
    | some active => exact Tells.told _ b
    | none => rfl

def tellsSwitchOnAura (aura : Aura) (slot : Slot) : Tells id (aura.switchOn slot) :=
  match aura with
  | .minions aura => (Tells.quiet (quiet_minions_switchOn aura slot)).yielding _
  | .player aura => (tellsSwitchOnPlayerAura aura slot).yielding _

def tellsSwitchOffAura (aura : Aura) : Tells id aura.switchOff :=
  match aura with
  | .minions aura => Tells.quiet (quiet_minions_switchOff aura)
  | .player aura => tellsSwitchOffPlayerAura aura

def tellsDetach (owner : EntityId) : Tells id (Board.detachEffects owner) :=
  .act (.detach owner) fun _ => (leftBy_discard _ _).symm

lemma effectsOf_removeAuras (ids : List AuraId) :
    Within (Same effectsOf) (Board.removeAuras ids) := by
  induction ids with
  | nil => exact within_pure _
  | cons id ids ih =>
    have hfirst : Within (Same effectsOf) (Board.removeAura id) := fun b =>
      congrArg Prod.fst (upkeep_removeAura id b)
    exact hfirst.bind fun _ => ih

lemma leftBy_leave_of_bereft {minion : EntityId} {b b₁ b₂ : Board} {count : Nat}
    (hdetach : Board.detachEffects minion b = .ok count b₁)
    (hremove : Board.removeAuras (b₁.aurasOwnedBy minion) b₁ = .ok () b₂) :
    leftBy (Act.leave minion).run b₂ = leftBy (Board.leavePlay minion) b₂ := by
  have hdetached := effectsOf_detach b minion
  have hkept := effectsOf_removeAuras (b₁.aurasOwnedBy minion) b₁
  rw [leftBy_of_ok hdetach] at hdetached
  rw [leftBy_of_ok hremove] at hkept
  have hnone : effectsOf b₂ minion = [] := (congrFun hkept minion).trans hdetached
  have hleave := leftBy_leave minion b₂
  rw [if_pos (aurasOwnedBy_removeAuras hremove)] at hleave
  rw [← hleave]
  simp [leftBy, Act.run, hnone]

/-- A minion that is removed is rid of its effects and its auras first, if all goes well. -/
def tellsRemoveMinion (minion : EntityId) : Tells id (Board.removeMinion minion) where
  acts b :=
    if b.isMinion minion = false then []
    else
      .detach minion ::
        match Board.detachEffects minion b with
        | .error _ _ => []
        | .ok _ b₁ =>
          (tellsRemoveAuras (b₁.aurasOwnedBy minion)).acts b₁ ++
            match Board.removeAuras (b₁.aurasOwnedBy minion) b₁ with
            | .error _ _ => []
            | .ok _ _ => [.leave minion]
  told b := by
    have hrun := removeMinion_run minion b
    by_cases hminion : b.isMinion minion = false
    · rw [if_pos hminion] at hrun ⊢
      exact leftBy_of_error hrun
    rw [if_neg hminion] at hrun ⊢
    have hfirst : leftBy (Act.detach minion).run b = leftBy (Board.detachEffects minion) b :=
      leftBy_discard _ _
    change leftBy (Board.removeMinion minion) b = enact (leftBy (Act.detach minion).run b) _
    rw [hfirst]
    cases hdetach : Board.detachEffects minion b with
    | error fault b₁ =>
      simp only [hdetach] at hrun
      rw [leftBy_of_error hrun, leftBy_of_error hdetach]
      rfl
    | ok count b₁ =>
      simp only [hdetach] at hrun
      have htold : leftBy (Board.removeAuras (b₁.aurasOwnedBy minion)) b₁ = enact b₁ _ :=
        (tellsRemoveAuras _).told b₁
      rw [leftBy_of_ok hdetach]
      change _ = enact b₁ (_ ++ _)
      rw [enact_append, ← htold]
      cases hremove : Board.removeAuras (b₁.aurasOwnedBy minion) b₁ with
      | error fault b₂ =>
        simp only [hremove] at hrun
        rw [leftBy_of_error hrun, leftBy_of_error hremove]
        rfl
      | ok _ b₂ =>
        simp only [hremove] at hrun
        have hlast : leftBy (Board.removeMinion minion) b = leftBy (Board.leavePlay minion) b₂ := by
          unfold leftBy
          rw [hrun]
        rw [leftBy_of_ok hremove, hlast, ← leftBy_leave_of_bereft hdetach hremove]
        rfl

def tellsEndAura (listener : ListenerId) (aura : AuraId) :
    Tells id (Game.endAura listener aura) where
  acts b :=
    if listener ∈ b.spent then []
    else ((Tells.quiet (quiet_spend listener)).bind fun _ => tellsRemoveAura aura).acts b
  told b := by
    have hrun := endAura_run listener aura b
    by_cases hspent : listener ∈ b.spent
    · rw [if_pos hspent] at hrun ⊢
      exact leftBy_of_ok hrun
    · rw [if_neg hspent] at hrun ⊢
      rw [← ((Tells.quiet (quiet_spend listener)).bind fun _ => tellsRemoveAura aura).told]
      unfold leftBy
      rw [hrun]
      rfl

end Boards

/-! ### Operations on games -/

section Games

variable {σ : Type}

def tellsPassTurn : Tells Game.board (modify fun game =>
    { game with board := { game.board with
        activePlayer := game.board.activePlayer.next game.board.playerCount
        turn := game.board.turn + 1 } } : GameM σ Unit) where
  acts _ := [.quiet Move.passTurn.run quiet_passTurn]
  told _ := rfl

def tellsKeepScript (listener : ListenerId) (body : Payload → Program σ) :
    Tells Game.board (Game.keepScript listener body) :=
  .silent fun _ => rfl

def tellsScript (surface : EntityId) (event : String) (body : Payload → Program σ) :
    Tells Game.board (Game.subscribe surface event body) :=
  (Tells.onBoard (tellsListen _ _ _)).bind fun listener =>
    (tellsKeepScript listener body).bind fun _ => Tells.pure _

def tellsEventScript (event : Event) (target : EntityId) (body : Payload → Program σ) :
    Tells Game.board (Game.subscribeEvent event target body) :=
  (Tells.onBoard (tellsSubscribe _ _ _)).bind fun binding =>
    (tellsKeepScript binding.listener body).bind fun _ => Tells.pure _

variable {fire : Firing σ}
  (hfire : ∀ surface event args, Tells Game.board (fire surface event args))

def tellsDamage (source : Option EntityId) (target : EntityId) (amount : Amount) :
    Tells Game.board (Game.dealDamage fire source target amount) :=
  (Tells.onBoard (.quiet (quiet_updateStat _ _ _))).bind fun _ => (hfire _ _ _).bind fun _ =>
    Tells.get.bind fun game =>
      match game.board.controller? target with
      | some _ => hfire _ _ _
      | none => Tells.pure _

def tellsAction (action : Action) (target : EntityId) :
    Tells Game.board (Game.act fire action target) :=
  match action with
  | .change change => .onBoard (.quiet (quiet_make change target))
  | .damage amount => tellsDamage hfire none target amount
  | .heal amount => .onBoard (.quiet (quiet_heal target amount))

def tellsSummon (player : PlayerId) (spot : Option Nat) (name : String) (attack health : Amount) :
    Tells Game.board (Game.summon fire player spot name attack health) :=
  (Tells.onBoard (.act (.place player spot name attack health) fun _ =>
    (leftBy_discard _ _).symm)).bind fun _ => (hfire _ _ _).bind fun _ => Tells.pure _

def tellsEndTurn : Tells Game.board (Game.endTurn fire) :=
  Tells.get.bind fun _ => (hfire _ _ _).bind fun _ => tellsPassTurn.bind fun _ =>
    Tells.get.bind fun _ => hfire _ _ _

def tellsOperation : (operation : Operation) → Tells Game.board (Game.perform fire operation)
  | .summon player spot name attack health => tellsSummon hfire player spot name attack health
  | .removeMinion minion => .onBoard (tellsRemoveMinion minion)
  | .raiseStat _ _ _ => .onBoard (.quiet (quiet_updateStat _ _ _))
  | .lowerStat _ _ _ => .onBoard (.quiet (quiet_updateStat _ _ _))
  | .setStat _ _ _ => .onBoard (.quiet (quiet_setStat _ _ _))
  | .dealDamage source target amount => tellsDamage hfire source target amount
  | .endTurn => tellsEndTurn hfire
  | .fire surface event args => hfire surface event args
  | .unsubscribe surface event listener =>
    .onBoard (.act (.release surface event listener) fun _ => rfl)
  | .release event binding => .onBoard (tellsRelease event binding)
  | .act action target => tellsAction hfire action target
  | .undo change target => .onBoard (.quiet (quiet_undo change target))
  | .switchOnEffect effect owner => .onBoard (tellsSwitchOnEffect effect owner)
  | .switchOffEffect effect => .onBoard (tellsSwitchOffEffect effect)
  | .attachEffect owner effect => .onBoard (.act (.attach owner effect) fun _ => rfl)
  | .detachEffects owner => .onBoard (tellsDetach owner)
  | .switchOnAura aura slot => .onBoard (tellsSwitchOnAura aura slot)
  | .switchOffAura aura => .onBoard (tellsSwitchOffAura aura)
  | .addAura holder owner aura => .onBoard (tellsAddAura holder owner aura)
  | .removeAura aura => .onBoard (tellsRemoveAura aura)
  | .refreshAuras => .onBoard (.quiet quiet_refreshAuras)

/-- What a program does. The recursion is on the tree of operations. -/
def tellsRun : (program : Program σ) → Tells Game.board (Game.run fire program)
  | .finish result => Tells.settle result
  | .look next => Tells.get.bind fun game => tellsRun (next game.board)
  | .note _ next => (Tells.silent fun _ => rfl).bind fun _ => Tells.get.bind fun game =>
    tellsRun (next game.host)
  | .perform operation next => (tellsOperation hfire operation).attempt.bind fun result =>
    tellsRun (next result)
  | .subscribe surface event body next => (tellsScript surface event body).attempt.bind
    fun result => tellsRun (next result)
  | .subscribeEvent event target body next => (tellsEventScript event target body).attempt.bind
    fun result => tellsRun (next result)

def tellsHandle (listener : ListenerId) (args : Payload) :
    (handler : Handler) → Tells Game.board (Game.handle fire listener args handler)
  | .trigger owner action targeting => Tells.get.bind fun game =>
    match targeting.resolve game.board owner args.focus args.other with
    | some target => tellsAction hfire action target
    | none => Tells.pure _
  | .endAura aura => .onBoard (tellsEndAura listener aura)
  | .script => Tells.get.bind fun game =>
    match Table.get? game.scripts listener with
    | some body => tellsRun hfire (body args)
    | none => Tells.pure _

def tellsCall (id : ListenerId) (listener : Listener) (args : Payload) :
    Tells Game.board (Game.call fire id listener args) where
  acts game :=
    if listener.gate.all fun gate => gate.1.holds game.board gate.2 args then
      (tellsHandle hfire id args listener.handler).acts game
    else []
  told game := by
    unfold Game.call
    cases listener.gate with
    | none => exact (tellsHandle hfire id args listener.handler).told game
    | some gate =>
      exact (Tells.get.bind fun game => Tells.ite (c := gate.1.holds game.board gate.2 args = true)
        (tellsHandle hfire id args listener.handler) (Tells.pure _)).told game

def tellsCallEach (surface : EntityId) (event : String) (args : Payload) :
    (listeners : List (ListenerId × Listener)) →
      Tells Game.board (Game.callEach fire surface event args listeners)
  | [] => Tells.pure _
  | (id, listener) :: rest => Tells.get.bind fun _ => Tells.ite
    ((tellsCall hfire id listener args).bind fun _ => tellsCallEach surface event args rest)
    (tellsCallEach surface event args rest)

def tellsPass (surface : EntityId) (event : String) (args : Payload) :
    Tells Game.board (Game.pass fire surface event args) :=
  (Tells.onBoard (tellsCharacter surface)).bind fun character =>
    match character.listeners.listFor event with
    | [] => Tells.pure _
    | entry :: rest => (Tells.onBoard (.quiet (quiet_enter surface event))).bind fun _ =>
      (tellsCallEach hfire surface event args (entry :: rest)).attempt.bind fun result =>
        (Tells.onBoard (.quiet quiet_conclude)).bind fun _ => Tells.settle result

def tellsRefuseReentry (surface : EntityId) (event : String) :
    Tells id (Game.refuseReentry surface event) :=
  Tells.get.bind fun _ => Tells.ite (Tells.throw _) (Tells.pure _)

end Games

/-- What firing an occurrence does. The recursion is on the number of occurrences that may still
come under way. -/
def tellsFireWithin {σ : Type} : (budget : Nat) → (surface : EntityId) → (event : String) →
    (args : Payload) → Tells Game.board (Game.fireWithin budget surface event args : GameM σ Unit)
  | 0, surface, event, _ => (Tells.onBoard (tellsRefuseReentry surface event)).bind fun _ =>
    Tells.get.bind fun _ => Tells.throw _
  | budget + 1, surface, event, args =>
    (Tells.onBoard (tellsRefuseReentry surface event)).bind fun _ =>
      tellsPass (tellsFireWithin budget) surface event args

def tellsFire {σ : Type} (surface : EntityId) (event : String) (args : Payload) :
    Tells Game.board (Game.fire surface event args : GameM σ Unit) :=
  Tells.get.bind fun game => tellsFireWithin game.budget surface event args

/-- What a program does to the board of a game, act by act. -/
def chronicle {σ : Type} (program : Program σ) (game : Game σ) : List Act :=
  (tellsRun tellsFire program).acts game

/-- The acts of a run lead to the board of the run. -/
theorem enact_chronicle {σ : Type} (program : Program σ) (game : Game σ) :
    enact game.board (chronicle program game) = (leftBy (Game.execute program) game).board :=
  ((tellsRun tellsFire program).told game).symm

end CardEffects.Proofs
