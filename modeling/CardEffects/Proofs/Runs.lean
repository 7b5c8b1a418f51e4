import CardEffects.Proofs.Histories
import CardEffects.Proofs.Registers

/-!
# Runs of games

Every run of a program on a game plays a history on its board, whatever the program does, whatever
its subscriptions do, and whichever operations end in a fault. The program only has to work with
auras through the register.
-/

namespace CardEffects.Proofs

/-! ### Minions that leave -/

section Operations

variable {allowed : Aura → Prop} {R : Board → Board → Prop} [carries : Carries allowed R]

include carries

lemma within_removeMinion (id : EntityId) : Within R (Board.removeMinion id) := by
  have hleave : Within R (do
      Board.removeAuras ((← get).aurasOwnedBy id)
      Board.leavePlay id : BoardM Minion) := by
    intro b
    refine leftBy_bind_related (x := Board.removeAuras (b.aurasOwnedBy id))
      (within_removeAuras _ b) fun _ b' hremove => ?_
    have hmove := Carries.of_move (R := R) (.leave id) trivial trivial trivial b'
    rwa [leftBy_leave, if_pos (aurasOwnedBy_removeAuras hremove)] at hmove
  unfold Board.removeMinion
  refine within_get.bind fun b => ?_
  split
  · exact (within_throw _).bind fun _ => (within_detachEffects id).bind fun _ => hleave
  · exact (within_detachEffects id).bind fun _ => hleave

end Operations

/-! ### Programs -/

/-- Whether an operation works with auras through the register only, and adds allowed ones. -/
def OperationKeepsTo (allowed : Aura → Prop) : Operation → Prop
  | .addAura _ _ aura => allowed aura
  | .switchOnAura _ _ => False
  | .switchOffAura _ => False
  | _ => True

/-- Whether a program and all that it subscribes work with auras through the register only, and
add allowed ones, as long as every board they look at comes from the first by a history. -/
def KeepsTo (allowed : Aura → Prop) (start : Board) {σ : Type} : Program σ → Prop
  | .finish _ => True
  | .look next => ∀ board, Plays allowed start board → KeepsTo allowed start (next board)
  | .note _ next => ∀ host, KeepsTo allowed start (next host)
  | .perform operation next =>
    OperationKeepsTo allowed operation ∧ ∀ result, KeepsTo allowed start (next result)
  | .subscribe _ _ body next =>
    (∀ args, KeepsTo allowed start (body args)) ∧ ∀ result, KeepsTo allowed start (next result)
  | .subscribeEvent _ _ body next =>
    (∀ args, KeepsTo allowed start (body args)) ∧ ∀ result, KeepsTo allowed start (next result)

/-- Whether the programs that are kept for subscriptions do so. -/
def ScriptsKeepTo (allowed : Aura → Prop) (start : Board) {σ : Type} (game : Game σ) : Prop :=
  ∀ listener body, Table.get? game.scripts listener = some body →
    ∀ args, KeepsTo allowed start (body args)

/-- One game comes from another by a history of its board, if the other has come so from the
first. -/
def Runs (allowed : Aura → Prop) (start : Board) {σ : Type} (game game' : Game σ) : Prop :=
  Plays allowed start game.board → ScriptsKeepTo allowed start game →
    ScriptsKeepTo allowed start game' ∧ Plays allowed game.board game'.board

instance (allowed : Aura → Prop) (start : Board) (σ : Type) :
    IsPreorder (Game σ) (Runs allowed start) where
  refl game := fun _ hscripts => ⟨hscripts, refl game.board⟩
  trans _ _ _ h h' := fun hplays hscripts =>
    have hfirst := h hplays hscripts
    have hsecond := h' (Trans.trans hplays hfirst.2) hfirst.1
    ⟨hsecond.1, Trans.trans hfirst.2 hsecond.2⟩

section Games

variable {allowed : Aura → Prop} {start : Board} {σ α : Type}

lemma within_onBoard {operation : BoardM α} (h : Within (Plays allowed) operation) :
    Within (Runs allowed start) (onBoard operation : GameM σ α) := by
  intro game _ hscripts
  have hplays := h game.board
  unfold leftBy onBoard at *
  cases hrun : operation game.board with
  | ok a b => simpa [hrun] using ⟨hscripts, by simpa [hrun] using hplays⟩
  | error fault b => simpa [hrun] using ⟨hscripts, by simpa [hrun] using hplays⟩

lemma within_modify_host {f : Game σ → Game σ} (hboard : ∀ game, (f game).board = game.board)
    (hscripts : ∀ game, (f game).scripts = game.scripts) :
    Within (Runs allowed start) (modify f : GameM σ Unit) := by
  intro game _ h
  change ScriptsKeepTo allowed start (f game) ∧ Plays allowed game.board (f game).board
  rw [hboard]
  refine ⟨fun listener body hget => ?_, refl game.board⟩
  rw [hscripts] at hget
  exact h listener body hget

lemma within_keepScript (listener : ListenerId) {body : Payload → Program σ}
    (hbody : ∀ args, KeepsTo allowed start (body args)) :
    Within (Runs allowed start) (Game.keepScript listener body) := by
  intro game _ hscripts
  refine ⟨fun listener' body' hget => ?_, refl game.board⟩
  change Table.get? (Table.insert game.scripts listener body) listener' = some body' at hget
  by_cases hl : listener = listener'
  · subst hl
    rw [Table.get?_insert_self] at hget
    cases hget
    exact hbody
  · rw [Table.get?_insert_of_ne _ _ hl] at hget
    exact hscripts listener' body' hget

lemma within_modify_board (move : Move) (hfits : move.Fits allowed) {f : Board → Board}
    (h : ∀ b, leftBy move.run b = f b) :
    Within (Runs allowed start)
      (modify fun game => { game with board := f game.board } : GameM σ Unit) := by
  have hmodify : Within (Plays allowed) (modify f : BoardM Unit) :=
    plays_of_move move hfits fun b => (h b).symm
  exact within_onBoard hmodify

/-! ### Operations on games -/

section Firing

variable {fire : Firing σ}
  (hfire : ∀ surface event args, Within (Runs allowed start) (fire surface event args))

include hfire

lemma within_dealDamage (source : Option EntityId) (target : EntityId) (amount : Amount) :
    Within (Runs allowed start) (Game.dealDamage fire source target amount) := by
  refine (within_onBoard (within_updateStat _ _ _)).bind fun _ => (hfire _ _ _).bind fun _ =>
    within_get.bind fun game => ?_
  cases game.board.controller? target with
  | some player => exact hfire _ _ _
  | none => exact within_pure _

lemma within_act (action : Action) (target : EntityId) :
    Within (Runs allowed start) (Game.act fire action target) := by
  cases action with
  | change change => exact within_onBoard (within_make change target)
  | damage amount => exact within_dealDamage hfire none target amount
  | heal amount => exact within_onBoard (within_heal target amount)

lemma within_summon (player : PlayerId) (spot : Option Nat) (name : String)
    (attack health : Amount) :
    Within (Runs allowed start) (Game.summon fire player spot name attack health) :=
  (within_onBoard (within_placeMinion _ _ _ _ _)).bind fun _ => (hfire _ _ _).bind fun _ =>
    within_pure _

lemma within_endTurn : Within (Runs allowed start) (Game.endTurn fire) :=
  within_get.bind fun _ => (hfire _ _ _).bind fun _ =>
    (within_modify_board .passTurn trivial fun _ => rfl).bind fun _ =>
      within_get.bind fun _ => hfire _ _ _

lemma within_perform {operation : Operation} (h : OperationKeepsTo allowed operation) :
    Within (Runs allowed start) (Game.perform fire operation) := by
  cases operation with
  | summon player spot name attack health => exact within_summon hfire _ _ _ _ _
  | removeMinion minion => exact within_onBoard (within_removeMinion minion)
  | raiseStat entity key amount => exact within_onBoard (within_updateStat _ _ _)
  | lowerStat entity key amount => exact within_onBoard (within_updateStat _ _ _)
  | setStat entity key value => exact within_onBoard (within_setStat _ _ _)
  | dealDamage source target amount => exact within_dealDamage hfire _ _ _
  | endTurn => exact within_endTurn hfire
  | fire surface event args => exact hfire _ _ _
  | unsubscribe surface event listener => exact within_onBoard (within_unsubscribe _ _ _)
  | release event binding => exact within_onBoard (within_release _ _)
  | act action target => exact within_act hfire _ _
  | undo change target => exact within_onBoard (within_undo _ _)
  | switchOnEffect effect owner => exact within_onBoard (within_switchOnEffect _ _)
  | switchOffEffect effect => exact within_onBoard (within_switchOffEffect _)
  | attachEffect owner effect => exact within_onBoard (within_attachEffect _ _)
  | detachEffects owner => exact within_onBoard (within_detachEffects _)
  | switchOnAura aura slot => exact h.elim
  | switchOffAura aura => exact h.elim
  | addAura holder owner aura => exact within_onBoard (within_addAura _ _ h)
  | removeAura aura => exact within_onBoard (within_removeAura _)
  | refreshAuras => exact within_onBoard within_refreshAuras

theorem within_run {program : Program σ} (h : KeepsTo allowed start program) :
    Within (Runs allowed start) (Game.run fire program) := by
  induction program with
  | finish result => exact within_settle result
  | look next ih =>
    -- Here it matters that the board which is passed on is one of the history.
    intro game hplays hscripts
    exact ih game.board (h game.board hplays) game hplays hscripts
  | note update next ih =>
    exact (within_modify_host (f := fun game => { game with host := update game.host })
      (fun _ => rfl) fun _ => rfl).bind fun _ => within_get.bind fun game => ih _ (h _)
  | perform operation next ih =>
    exact (within_perform hfire h.1).attempt.bind fun result => ih result (h.2 result)
  | subscribe surface event body next _ ih =>
    have hsubscribe : Within (Runs allowed start) (Game.subscribe surface event body) :=
      (within_onBoard (within_bind _ _ fun _ => by simp)).bind fun listener =>
        (within_keepScript listener h.1).bind fun _ => within_pure _
    exact hsubscribe.attempt.bind fun result => ih result (h.2 result)
  | subscribeEvent event target body next _ ih =>
    have hsubscribe : Within (Runs allowed start) (Game.subscribeEvent event target body) :=
      (within_onBoard (within_subscribe _ _ fun _ => by simp)).bind fun binding =>
        (within_keepScript binding.listener h.1).bind fun _ => within_pure _
    exact hsubscribe.attempt.bind fun result => ih result (h.2 result)

lemma within_handle (listener : ListenerId) (args : Payload) (handler : Handler) :
    Within (Runs allowed start) (Game.handle fire listener args handler) := by
  cases handler with
  | trigger owner action targeting =>
    refine within_get.bind fun game => ?_
    cases targeting.resolve game.board owner args.focus args.other with
    | some target => exact within_act hfire action target
    | none => exact within_pure _
  | endAura aura => exact within_onBoard (within_endAura listener aura)
  | script =>
    intro game hplays hscripts
    cases hbody : Table.get? game.scripts listener with
    | none =>
      have hrun : leftBy (Game.handle fire listener args .script) game = game := by
        simp [leftBy, Game.handle, hbody]
      rw [hrun]
      exact refl (r := Runs allowed start) game hplays hscripts
    | some body =>
      have hrun : leftBy (Game.handle fire listener args .script) game =
          leftBy (Game.run fire (body args)) game := by
        simp [leftBy, Game.handle, hbody]
      rw [hrun]
      exact within_run hfire (hscripts listener body hbody args) game hplays hscripts

lemma within_call (id : ListenerId) (listener : Listener) (args : Payload) :
    Within (Runs allowed start) (Game.call fire id listener args) := by
  unfold Game.call
  cases listener.gate with
  | none => exact within_handle hfire _ _ _
  | some gate =>
    refine within_get.bind fun game => ?_
    split
    · exact within_handle hfire _ _ _
    · exact within_pure _

lemma within_callEach (surface : EntityId) (event : String) (args : Payload)
    (listeners : List (ListenerId × Listener)) :
    Within (Runs allowed start) (Game.callEach fire surface event args listeners) := by
  induction listeners with
  | nil => exact within_pure _
  | cons entry listeners ih =>
    refine within_get.bind fun game => ?_
    split
    · exact (within_call hfire _ _ _).bind fun _ => ih
    · exact ih

lemma within_pass (surface : EntityId) (event : String) (args : Payload) :
    Within (Runs allowed start) (Game.pass fire surface event args) := by
  refine (within_onBoard (within_character surface)).bind fun c => ?_
  split
  · exact within_pure _
  · exact (within_onBoard (plays_of_move (.enter surface event) trivial fun _ => rfl)).bind
      fun _ => (within_callEach hfire _ _ _ _).attempt.bind fun result =>
        (within_onBoard (plays_of_move .conclude trivial fun _ => rfl)).bind fun _ =>
          within_settle result

end Firing

lemma within_refuseReentry (surface : EntityId) (event : String) :
    Within (Plays allowed) (Game.refuseReentry surface event) := by
  refine within_get.bind fun b => ?_
  split
  · exact within_throw _
  · exact within_pure _

theorem within_fireWithin (budget : Nat) (surface : EntityId) (event : String) (args : Payload) :
    Within (Runs allowed start) (Game.fireWithin budget surface event args : GameM σ Unit) := by
  induction budget generalizing surface event args with
  | zero =>
    exact (within_onBoard (within_refuseReentry surface event)).bind fun _ =>
      within_get.bind fun _ => within_throw _
  | succ budget ih =>
    exact (within_onBoard (within_refuseReentry surface event)).bind fun _ =>
      within_pass ih surface event args

end Games

/-- Whatever a program does on a game at its start, the board is one that a history leads to, and so
is each that the program and its subscriptions look at on the way. -/
theorem board_of_execute {allowed : Aura → Prop} {σ : Type} {settings : Settings} {host : σ}
    {game : Game σ} (hnew : Game.new settings host = .ok game) {program : Program σ}
    (h : KeepsTo allowed game.board program) :
    Board.new settings = .ok game.board ∧ ∃ moves, (∀ move ∈ moves, Move.Fits allowed move) ∧
      (leftBy (Game.execute program) game).board = play game.board moves := by
  cases hboard : Board.new settings with
  | error fault => simp [Game.new, hboard, Except.map] at hnew
  | ok start =>
    simp only [Game.new, hboard, Except.map, Except.ok.injEq] at hnew
    subst hnew
    have hfire : ∀ surface event args,
        Within (Runs allowed start) (Game.fire surface event args : GameM σ Unit) :=
      fun _ _ _ => within_get.bind fun _ => within_fireWithin _ _ _ _
    have hscripts : ScriptsKeepTo allowed start ({ board := start, host } : Game σ) := by
      intro listener body hget
      cases hget
    obtain ⟨-, moves, hfits, hplay⟩ := within_run hfire h _ (refl start) hscripts
    exact ⟨rfl, moves, hfits, hplay.symm⟩

end CardEffects.Proofs
