import CardEffects.Proofs.ActOutcomes
import CardEffects.Proofs.Chronicles
import CardEffects.Proofs.Strides

/-!
# Acts of steps

What a step of a game does to the board it does by acts, and these are of a kind as soon as that
which a program does by hand is. So what each act of a kind keeps, a game keeps for as long as its
programs keep to that kind.
-/

namespace CardEffects.Proofs

/-- Whether a kind of acts has all acts but putting minions into play and taking them out, releasing
a subscription by hand, and those that use up the ending of an aura. -/
structure Ordinary (kind : Act → Prop) : Prop where
  quiet : ∀ {change} (hquiet), Within (Same Board.spent) change → kind (.quiet change hquiet)
  listen : ∀ surface event listener, kind (.listen surface event listener)
  attach : ∀ owner effect, kind (.attach owner effect)
  detach : ∀ owner, kind (.detach owner)
  addAura : ∀ holder owner aura, kind (.addAura holder owner aura)
  removeAura : ∀ aura, kind (.removeAura aura)

/-- Whether a kind of acts has all acts but releasing a subscription by hand, leaving play, and
those that use up the ending of an aura. -/
structure Common (kind : Act → Prop) : Prop extends Ordinary kind where
  place : ∀ player spot name attack health, kind (.place player spot name attack health)

/-- One board comes from another by acts of a kind. -/
def Via (kind : Act → Prop) (b b' : Board) : Prop :=
  ∃ acts, (∀ act ∈ acts, kind act) ∧ b' = enact b acts

instance (kind : Act → Prop) : IsPreorder Board (Via kind) where
  refl b := ⟨[], by simp, rfl⟩
  trans := by
    rintro b _ _ ⟨acts, hkind, rfl⟩ ⟨acts', hkind', rfl⟩
    refine ⟨acts ++ acts', fun act hact => ?_, (enact_append b acts acts').symm⟩
    rcases List.mem_append.mp hact with hact | hact
    · exact hkind act hact
    · exact hkind' act hact

lemma Via.preserves {kind : Act → Prop} {P : Board → Prop}
    (hact : ∀ act, kind act → ∀ b, P b → P (leftBy act.run b)) {b b' : Board} (h : Via kind b b')
    (hb : P b) : P b' := by
  obtain ⟨acts, hkind, rfl⟩ := h
  induction acts generalizing b with
  | nil => exact hb
  | cons act acts ih =>
    apply ih
    · exact hact act (hkind act List.mem_cons_self) b hb
    · exact fun a ha => hkind a (List.mem_cons_of_mem _ ha)

lemma Via.keepersFit {kind : Act → Prop} {b b' : Board} (h : Via kind b b') (hfit : KeepersFit b) :
    KeepersFit b' :=
  h.preserves (fun act _ _ hb => hb.act (hb.outcome act)) hfit

/-! ### Operations on boards -/

section Boards

variable {kind : Act → Prop} {α : Type}

lemma via_act {operation : BoardM α} {act : Act} (hkind : kind act)
    (h : ∀ b, leftBy operation b = leftBy act.run b) : Within (Via kind) operation :=
  fun b => ⟨[act], by simpa using hkind, h b⟩

lemma via_release (event : Event) {binding : Binding}
    (h : kind (.release binding.surface binding.event binding.listener)) :
    Within (Via kind) (event.unsubscribe binding) := by
  have hrelease : Within (Via kind)
      (Board.unsubscribe binding.surface binding.event binding.listener) :=
    via_act h fun _ => rfl
  unfold Event.unsubscribe
  split
  · exact (within_throw _).bind fun _ => hrelease
  · exact hrelease

lemma via_switchOffEffect {effect : Effect}
    (h : ∀ owner binding, effect.active = some (owner, binding) →
      kind (.release binding.surface binding.event binding.listener)) :
    Within (Via kind) effect.switchOff := by
  unfold Effect.switchOff
  cases hactive : effect.active with
  | none => exact within_throw _
  | some active => exact via_release _ (h _ _ hactive)

variable (hordinary : Ordinary kind)

include hordinary

lemma via_quiet {operation : BoardM α} (hquiet : Within Quiet operation)
    (hspent : Within (Same Board.spent) operation) : Within (Via kind) operation :=
  via_act (hordinary.quiet hquiet.discard hspent.discard) fun b => (leftBy_discard operation b).symm

lemma via_listen (surface : EntityId) (event : String) (listener : Listener) :
    Within (Via kind) (Board.subscribe surface event listener) :=
  via_act (hordinary.listen _ _ _) fun _ => (leftBy_discard _ _).symm

lemma via_subscribe (event : Event) (target : EntityId) (handler : Handler) :
    Within (Via kind) (event.subscribe target handler) :=
  within_get.bind fun _ => (within_settle _).bind fun _ =>
    (via_listen hordinary _ _ _).bind fun _ => within_pure _

lemma via_switchOnEffect (effect : Effect) (owner : EntityId) :
    Within (Via kind) (effect.switchOn owner) := by
  unfold Effect.switchOn
  split
  · exact (within_throw _).bind fun _ => (via_subscribe hordinary _ _ _).bind fun _ => within_pure _
  · exact (via_subscribe hordinary _ _ _).bind fun _ => within_pure _

lemma via_removeAura (id : AuraId) : Within (Via kind) (Board.removeAura id) :=
  via_act (hordinary.removeAura id) fun _ => rfl

lemma via_removeAuras (ids : List AuraId) : Within (Via kind) (Board.removeAuras ids) := by
  induction ids with
  | nil => exact within_pure _
  | cons id ids ih => exact (via_removeAura hordinary id).bind fun _ => ih

lemma via_removeMinion {minion : EntityId} (h : kind (.leave minion)) :
    Within (Via kind) (Board.removeMinion minion) := by
  intro b
  have hrun := removeMinion_run minion b
  have hdetached : Within (Via kind) (Board.detachEffects minion) :=
    via_act (hordinary.detach minion) fun _ => (leftBy_discard _ _).symm
  have hfirst := hdetached b
  split at hrun
  · rw [leftBy_of_error hrun]
    exact refl b
  cases hdetach : Board.detachEffects minion b with
  | error fault b₁ =>
    simp only [hdetach] at hrun
    rw [leftBy_of_error hdetach] at hfirst
    rwa [leftBy_of_error hrun]
  | ok count b₁ =>
    simp only [hdetach] at hrun
    rw [leftBy_of_ok hdetach] at hfirst
    have hauras := via_removeAuras hordinary (b₁.aurasOwnedBy minion) b₁
    cases hremove : Board.removeAuras (b₁.aurasOwnedBy minion) b₁ with
    | error fault b₂ =>
      simp only [hremove] at hrun
      rw [leftBy_of_error hremove] at hauras
      rw [leftBy_of_error hrun]
      exact Trans.trans hfirst hauras
    | ok _ b₂ =>
      simp only [hremove] at hrun
      rw [leftBy_of_ok hremove] at hauras
      have hlast : leftBy (Board.removeMinion minion) b = leftBy (Act.leave minion).run b₂ := by
        rw [leftBy_leave_of_bereft hdetach hremove]
        unfold leftBy
        rw [hrun]
      have hleave : Within (Via kind) (Act.leave minion).run := via_act h fun _ => rfl
      rw [hlast]
      exact Trans.trans hfirst (Trans.trans hauras (hleave b₂))

lemma via_switchOnPlayerAura (aura : PlayerAura) (slot : Slot) :
    Within (Via kind) (aura.switchOn slot) := by
  unfold PlayerAura.switchOn
  split
  · exact within_of_leftBy_eq fun _ => rfl
  · refine (via_quiet hordinary (quiet_make _ _) (within_make _ _)).bind fun _ =>
      (via_subscribe hordinary _ _ _).attempt.bind fun result => ?_
    cases result with
    | ok binding => exact within_pure _
    | error fault =>
      exact (via_quiet hordinary (quiet_undo _ _) (within_undo _ _)).bind fun _ => within_throw _

lemma via_switchOnAura (aura : Aura) (slot : Slot) : Within (Via kind) (aura.switchOn slot) := by
  cases aura with
  | minions aura =>
    have hquiet : Within Quiet (Aura.switchOn (.minions aura) slot) :=
      (quiet_minions_switchOn aura slot).bind fun _ => within_pure _
    exact via_quiet hordinary hquiet (Handles.switchOn _ _)
  | player aura => exact (via_switchOnPlayerAura hordinary aura slot).bind fun _ => within_pure _

lemma via_switchOffAura {aura : Aura}
    (h : ∀ player slot binding, aura = .player player → player.active = some (slot, binding) →
      kind (.release binding.surface binding.event binding.listener)) :
    Within (Via kind) aura.switchOff := by
  cases aura with
  | minions aura =>
    exact via_quiet hordinary (quiet_minions_switchOff aura) (Handles.switchOff (.minions aura))
  | player aura =>
    change Within (Via kind) aura.switchOff
    unfold PlayerAura.switchOff
    cases hactive : aura.active with
    | none => exact within_throw _
    | some active =>
      exact (via_quiet hordinary (quiet_undo _ _) (within_undo _ _)).bind fun _ =>
        via_release _ (h aura _ _ rfl hactive)

lemma via_endAura {listener : ListenerId}
    (h : ∀ {change} (hquiet), kind (.quiet change hquiet)) (aura : AuraId) :
    Within (Via kind) (Game.endAura listener aura) := by
  refine within_get.bind fun b => ?_
  split
  · exact within_pure _
  · exact (via_act (h (quiet_spend listener)) fun _ => rfl).bind fun _ =>
      via_removeAura hordinary aura

end Boards

/-! ### Steps -/

/-- Whether what an operation releases or takes out of play is of a kind. -/
def OperationOfKind (kind : Act → Prop) : Operation → Prop
  | .removeMinion minion => kind (.leave minion)
  | .unsubscribe surface event listener => kind (.release surface event listener)
  | .release _ binding => kind (.release binding.surface binding.event binding.listener)
  | .switchOffEffect effect => ∀ owner binding, effect.active = some (owner, binding) →
    kind (.release binding.surface binding.event binding.listener)
  | .switchOffAura aura => ∀ player slot binding, aura = .player player →
    player.active = some (slot, binding) →
      kind (.release binding.surface binding.event binding.listener)
  | _ => True

/-- Whether a task does by hand what is of a kind only. The ending of an aura uses itself up. -/
def Task.OfKind {σ : Type} (kind : Act → Prop) : Task σ → Prop
  | .run (.perform operation _) => OperationOfKind kind operation
  | .call _ listener _ => ∀ aura, listener.handler = .endAura aura →
    ∀ {change} (hquiet), kind (.quiet change hquiet)
  | _ => True

/-- Whether the minion that an operation puts into play is put there by an act of a kind. -/
def PlacesOfKind (kind : Act → Prop) : Operation → Prop
  | .summon player spot name attack health => kind (.place player spot name attack health)
  | _ => True

/-- Whether the minion that a task puts into play is put there by an act of a kind. -/
def Task.Places {σ : Type} (kind : Act → Prop) : Task σ → Prop
  | .run (.perform operation _) => PlacesOfKind kind operation
  | _ => True

section Steps

variable {kind : Act → Prop} {σ α : Type}

/-- One game comes from another by acts of a kind on the board. -/
def ViaOn (kind : Act → Prop) (game game' : Game σ) : Prop :=
  Via kind game.board game'.board

instance : IsPreorder (Game σ) (ViaOn kind) where
  refl game := refl (r := Via kind) game.board
  trans _ _ _ h h' := Trans.trans (r := Via kind) (s := Via kind) h h'

lemma via_onBoard {operation : BoardM α} (h : Within (Via kind) operation) :
    Within (ViaOn kind) (onBoard operation : GameM σ α) := by
  intro game
  have hvia := h game.board
  unfold leftBy onBoard at *
  unfold ViaOn
  cases hrun : operation game.board <;> simpa [hrun] using hvia

lemma via_after {x : GameM σ α} (h : Within (ViaOn kind) x) (game : Game σ)
    (next : Except Fault α → Task σ) (frames : List (TaskFrame σ)) :
    ViaOn kind game (Config.after (x game) next frames).game := by
  have hgame : (Config.after (x game) next frames).game = leftBy x game := by
    unfold Config.after leftBy
    cases x game <;> rfl
  rw [hgame]
  exact h game

variable (hordinary : Ordinary kind)

include hordinary

lemma via_perform {operation : Operation} (hfires : ¬Fires operation)
    (h : OperationOfKind kind operation) :
    Within (ViaOn kind) (Game.perform still operation : GameM σ operation.Reply) := by
  cases operation with
  | removeMinion minion => exact via_onBoard (via_removeMinion hordinary h)
  | raiseStat entity key amount =>
    exact via_onBoard (via_quiet hordinary (quiet_updateStat _ _ _) (within_updateStat _ _ _))
  | lowerStat entity key amount =>
    exact via_onBoard (via_quiet hordinary (quiet_updateStat _ _ _) (within_updateStat _ _ _))
  | setStat entity key value =>
    exact via_onBoard (via_quiet hordinary (quiet_setStat _ _ _) (within_setStat _ _ _))
  | unsubscribe surface event listener => exact via_onBoard (via_act h fun _ => rfl)
  | release event binding => exact via_onBoard (via_release event h)
  | undo change target =>
    exact via_onBoard (via_quiet hordinary (quiet_undo _ _) (within_undo _ _))
  | switchOnEffect effect owner => exact via_onBoard (via_switchOnEffect hordinary effect owner)
  | switchOffEffect effect => exact via_onBoard (via_switchOffEffect h)
  | attachEffect owner effect =>
    exact via_onBoard (via_act (hordinary.attach owner effect) fun _ => rfl)
  | detachEffects owner =>
    exact via_onBoard (via_act (hordinary.detach owner) fun _ => (leftBy_discard _ _).symm)
  | switchOnAura aura slot => exact via_onBoard (via_switchOnAura hordinary aura slot)
  | switchOffAura aura => exact via_onBoard (via_switchOffAura hordinary h)
  | addAura holder owner aura =>
    exact via_onBoard (via_act (hordinary.addAura holder owner aura) fun _ =>
      (leftBy_discard _ _).symm)
  | removeAura aura => exact via_onBoard (via_removeAura hordinary aura)
  | refreshAuras => exact via_onBoard (via_quiet hordinary quiet_refreshAuras within_refreshAuras)
  | _ => exact absurd trivial hfires

lemma via_startOperation (game : Game σ) (frames : List (TaskFrame σ)) {operation : Operation}
    (h : OperationOfKind kind operation) (hplaces : PlacesOfKind kind operation)
    (next : Except Fault operation.Reply → Program σ) :
    ViaOn kind game (startOperation game frames operation next).game := by
  by_cases hfires : Fires operation
  · cases operation with
    | summon player spot name attack health =>
      have hplace : Within (ViaOn kind)
          (onBoard (Board.placeMinion player spot name attack health) : GameM σ EntityId) :=
        via_onBoard (via_act hplaces fun _ => (leftBy_discard _ _).symm)
      have hplaced := hplace game
      unfold leftBy at hplaced
      unfold startOperation
      cases hrun : onBoard (Board.placeMinion player spot name attack health) game <;>
        simpa only [hrun] using hplaced
    | dealDamage source target amount => exact refl (r := ViaOn kind) game
    | endTurn => exact refl (r := ViaOn kind) game
    | fire surface event args => exact refl (r := ViaOn kind) game
    | act action target => exact refl (r := ViaOn kind) game
    | _ => exact hfires.elim
  · rw [startOperation_of_not_fires game frames hfires]
    exact via_after (via_perform hordinary hfires h) game _ _

lemma via_startProgram (game : Game σ) (frames : List (TaskFrame σ)) {program : Program σ}
    (h : (Task.run program).OfKind kind) (hplaces : (Task.run program).Places kind) :
    ViaOn kind game (startProgram game frames program).game := by
  cases program with
  | finish result => exact refl (r := ViaOn kind) game
  | look next => exact refl (r := ViaOn kind) game
  | note update next => exact refl (r := Via kind) game.board
  | perform operation next => exact via_startOperation hordinary game frames h hplaces next
  | subscribe surface event body next =>
    have hkeep : ∀ listener, Within (ViaOn kind) (Game.keepScript listener body) :=
      fun _ game => refl (r := Via kind) game.board
    exact via_after ((via_onBoard (via_listen hordinary _ _ _)).bind fun listener =>
      (hkeep listener).bind fun _ => within_pure _) game _ _
  | subscribeEvent event target body next =>
    have hkeep : ∀ listener, Within (ViaOn kind) (Game.keepScript listener body) :=
      fun _ game => refl (r := Via kind) game.board
    exact via_after ((via_onBoard (via_subscribe hordinary _ _ _)).bind fun binding =>
      (hkeep binding.listener).bind fun _ => within_pure _) game _ _

lemma via_startHandling (game : Game σ) (frames : List (TaskFrame σ)) {id : ListenerId}
    {listener : Listener} {args : Payload} (h : (Task.call (σ := σ) id listener args).OfKind kind) :
    ViaOn kind game (startHandling game frames id args listener.handler).game := by
  cases hhandler : listener.handler with
  | trigger owner action targeting =>
    simp only [startHandling]
    cases targeting.resolve game.board owner args.focus args.other <;>
      exact refl (r := ViaOn kind) game
  | endAura aura =>
    exact via_after (via_onBoard (via_endAura hordinary (h aura hhandler) aura)) game _ _
  | script =>
    simp only [startHandling]
    cases Table.get? game.scripts id <;> exact refl (r := ViaOn kind) game

lemma via_startAction (game : Game σ) (frames : List (TaskFrame σ)) (target : EntityId)
    (action : Action) : ViaOn kind game (startAction game frames target action).game := by
  cases action with
  | change change =>
    have hmake := via_quiet hordinary (quiet_make change target) (within_make change target)
    exact via_after (via_onBoard hmake) game _ _
  | damage amount => exact refl (r := ViaOn kind) game
  | heal amount =>
    have hheal := via_quiet hordinary (quiet_heal target amount) (within_heal target amount)
    exact via_after (via_onBoard hheal) game _ _

lemma via_startDamage (game : Game σ) (frames : List (TaskFrame σ)) (source : Option EntityId)
    (target : EntityId) (amount : Amount) :
    ViaOn kind game (startDamage game frames source target amount).game := by
  have hlower : Within (ViaOn kind)
      (onBoard (Board.lowerStat target Stat.health amount) : GameM σ Amount) :=
    via_onBoard (via_quiet hordinary (quiet_updateStat _ _ _) (within_updateStat _ _ _))
  have hlowered := hlower game
  unfold leftBy at hlowered
  unfold startDamage
  cases hrun : onBoard (Board.lowerStat target Stat.health amount) game <;>
    simpa only [hrun] using hlowered

lemma via_startFiring (game : Game σ) (frames : List (TaskFrame σ)) (surface : EntityId)
    (event : String) (args : Payload) :
    ViaOn kind game (startFiring game frames surface event args).game := by
  unfold startFiring
  cases refusal? game.board surface event with
  | some fault => exact refl (r := ViaOn kind) game
  | none =>
    cases listenersAt game.board surface event with
    | nil => exact refl (r := ViaOn kind) game
    | cons entry rest =>
      exact via_quiet hordinary (quiet_enter surface event) (fun _ => rfl) game.board

lemma via_takeUp (game : Game σ) (frames : List (TaskFrame σ)) (frame : TaskFrame σ)
    (result : Except Fault Unit) : ViaOn kind game (takeUp game frames frame result).game := by
  have hconclude : ViaOn kind game (concluded game) :=
    via_quiet hordinary quiet_conclude (fun _ => rfl) game.board
  cases frame with
  | resume next => exact refl (r := ViaOn kind) game
  | tell target args =>
    cases result with
    | ok _ =>
      simp only [takeUp]
      cases game.board.controller? target <;> exact refl (r := ViaOn kind) game
    | error fault => exact refl (r := ViaOn kind) game
  | passTurn =>
    cases result with
    | ok _ => exact via_quiet hordinary quiet_passTurn (fun _ => rfl) game.board
    | error fault => exact refl (r := ViaOn kind) game
  | pass surface event args rest =>
    cases result with
    | error fault => exact hconclude
    | ok _ =>
      cases rest with
      | nil => exact hconclude
      | cons entry rest =>
        simp only [takeUp, callNext]
        split <;> exact refl (r := ViaOn kind) game

/-- Each step does to the board what acts of a kind do, if its task does by hand what is of the kind
only, and puts minions into play only if that is of the kind. -/
theorem via_of_step_placing {c c' : Config σ} (h : step c = some c') (htask : c.task.OfKind kind)
    (hplaces : c.task.Places kind) : Via kind c.game.board c'.game.board := by
  obtain ⟨task, frames, game⟩ := c
  cases task with
  | fire surface event args =>
    cases h
    exact via_startFiring hordinary game frames surface event args
  | damage source target amount =>
    cases h
    exact via_startDamage hordinary game frames source target amount
  | act action target =>
    cases h
    exact via_startAction hordinary game frames target action
  | call id listener args =>
    cases h
    change ViaOn kind game (startCall game frames id listener args).game
    unfold startCall
    split
    · exact via_startHandling hordinary game frames htask
    · exact refl (r := ViaOn kind) game
  | run program =>
    cases h
    exact via_startProgram hordinary game frames htask hplaces
  | done result =>
    cases frames with
    | nil => cases h
    | cons frame frames =>
      cases h
      exact via_takeUp hordinary game frames frame result

omit hordinary in
theorem via_of_step (hcommon : Common kind) {c c' : Config σ} (h : step c = some c')
    (htask : c.task.OfKind kind) : Via kind c.game.board c'.game.board := by
  refine via_of_step_placing hcommon.toOrdinary h htask ?_
  cases c.task with
  | run program =>
    cases program with
    | perform operation next =>
      cases operation with
      | summon player spot name attack health => exact hcommon.place player spot name attack health
      | _ => trivial
    | _ => trivial
  | _ => trivial

end Steps

end CardEffects.Proofs
