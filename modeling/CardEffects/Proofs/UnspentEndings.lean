import CardEffects.Proofs.ActSteps
import CardEffects.Proofs.Balances
import CardEffects.Proofs.PendingCalls

/-!
# Unspent endings

The ending of an aura works once. It is used up in the same step that strikes its aura from the
register, so between steps the ending of an aura that is registered has not been used up.
-/

namespace CardEffects.Proofs

/-! ### Acts that use up no ending -/

/-- Whether an act uses up no ending. -/
def Act.Frugal : Act → Prop
  | .quiet change _ => Within (Same Board.spent) change
  | _ => True

lemma common_frugal : Common Act.Frugal :=
  ⟨⟨fun _ h => h, fun _ _ _ => trivial, fun _ _ => trivial, fun _ => trivial,
    fun _ _ _ => trivial, fun _ => trivial⟩, fun _ _ _ _ _ => trivial⟩

lemma within_spent_act {act : Act} (h : act.Frugal) : Within (Same Board.spent) act.run := by
  cases act with
  | quiet change hquiet => exact h
  | place player spot name attack health => exact (within_placeMinion _ _ _ _ _).discard
  | leave minion =>
    refine within_get.bind fun b => ?_
    split
    · exact Carries.of_move (.leave minion) trivial trivial trivial
    · exact within_pure _
  | listen surface event listener =>
    have hbind : ∀ b, progress (leftBy (Move.bind surface event listener).run b) = progress b :=
      aloof_progress.move trivial
    exact fun b => congrArg Prod.snd (hbind b)
  | release surface event id => exact within_unsubscribe surface event id
  | attach owner effect => exact within_attachEffect owner effect
  | detach owner => exact (within_detachEffects owner).discard
  | addAura holder owner aura => exact (within_addAura holder owner trivial).discard
  | removeAura aura => exact within_removeAura aura

/-! ### Across a step -/

/-- What is kept of the endings that are used up: their numbers are no longer to be given, and no
player aura that is registered has one of them. -/
structure EndingsUnspent (b : Board) : Prop extends KeepersFit b where
  spent_lt : ∀ {id}, id ∈ b.spent → id.raw < b.nextListener
  unspent : ∀ {aura k binding}, keeping? b (.aura aura) = some k → k.binding = some binding →
    binding.listener ∉ b.spent

lemma EndingsUnspent.act {b : Board} (h : EndingsUnspent b) {act : Act} (hfrugal : act.Frugal) :
    EndingsUnspent (leftBy act.run b) := by
  have hout := h.toKeepersFit.outcome act
  have hspent : (leftBy act.run b).spent = b.spent := within_spent_act hfrugal b
  refine ⟨h.toKeepersFit.act hout, fun hmem => ?_, fun hk hbinding => ?_⟩
  · rw [hspent] at hmem
    exact lt_of_lt_of_le (h.spent_lt hmem) (nextListener_le_of_outcome h.toKeepersFit hout)
  · rw [hspent]
    rcases keeping?_of_outcome h.toKeepersFit hout hk with hold | ⟨binding', hbinding', hid⟩
    · exact h.unspent hold hbinding
    · obtain rfl := Option.some.inj (hbinding.symm.trans hbinding')
      exact fun hmem => ne_next_of_lt (h.spent_lt hmem) hid

lemma EndingsUnspent.endAura {b : Board} (h : EndingsUnspent b) {surface : EntityId}
    {event : String} {id : ListenerId} {listener : Listener}
    (hmem : (id, listener) ∈ listenersAt b surface event) {aura : AuraId}
    (hhandler : listener.handler = .endAura aura) :
    EndingsUnspent (leftBy (Game.endAura id aura) b) := by
  have hrun := endAura_run id aura b
  split at hrun
  · rwa [leftBy_of_ok hrun]
  have hleft : leftBy (Game.endAura id aura) b =
      leftBy (Board.removeAura aura) { b with spent := id :: b.spent } := by
    unfold leftBy
    rw [hrun]
  have hidle : Idle b { b with spent := id :: b.spent } :=
    h.toKeepersFit.idle_quiet (quiet_spend id b)
  have hfit : KeepersFit { b with spent := id :: b.spent } := h.toKeepersFit.of_idle hidle
  have hspent : (leftBy (Board.removeAura aura) { b with spent := id :: b.spent }).spent =
      id :: b.spent :=
    within_removeAura (R := Same Board.spent) aura _
  rw [hleft]
  refine ⟨hfit.act (hfit.outcome (.removeAura aura)), fun hspends => ?_,
    fun {a k binding} hk hb => ?_⟩
  · rw [hspent] at hspends
    rw [(removed hfit aura).fewer.next_eq]
    rcases List.mem_cons.mp hspends with rfl | hspends
    · exact h.lt_next hmem
    · exact h.spent_lt hspends
  · obtain ⟨hk, hother⟩ := ((removed hfit aura).keeping _ k).mp hk
    have hold : keeping? b (.aura a) = some k := keeping?_eq_of_upkeep hidle.upkeep_eq ▸ hk
    rw [hspent]
    refine fun hspends => (List.mem_cons.mp hspends).elim ?_ (h.unspent hold hb)
    -- Whoever has made this subscription is the aura that it ends.
    rintro rfl
    obtain ⟨-, -, rfl⟩ := h.faithful hold hb hmem
    obtain ⟨⟨slot, player⟩, hget, rfl⟩ := Option.map_eq_some_iff.mp hold
    have hid := (h.wellFormed.fits a _ (playerAura?_eq_some.mp hget)).id_eq
    have hsame : slot.id = aura := Handler.endAura.inj hhandler
    exact hother (by rw [← hsame, hid])

section Steps

variable {σ : Type}

/-- Only what the call of an ending does is not frugal. -/
lemma task_frugal_or_ends (task : Task σ) : task.OfKind Act.Frugal ∨
    ∃ id listener args aura, task = .call id listener args ∧ listener.handler = .endAura aura := by
  cases task with
  | run program =>
    cases program with
    | perform operation next =>
      left
      cases operation with
      | switchOffEffect effect => exact fun _ _ _ => trivial
      | switchOffAura aura => exact fun _ _ _ _ _ => trivial
      | _ => trivial
    | _ => exact .inl trivial
  | call id listener args =>
    cases hhandler : listener.handler with
    | endAura aura => exact .inr ⟨id, listener, args, aura, rfl, hhandler⟩
    | _ =>
      left
      intro aura hends
      rw [hhandler] at hends
      cases hends
  | _ => exact .inl trivial

lemma EndingsUnspent.step {c c' : Config σ} (h : EndingsUnspent c.game.board) (hcalls : CallsFit c)
    (hstep : step c = some c') : EndingsUnspent c'.game.board := by
  rcases task_frugal_or_ends c.task with hfrugal | ⟨id, listener, args, aura, htask, hhandler⟩
  · exact (via_of_step common_frugal hstep hfrugal).preserves (fun _ hact _ hb => hb.act hact) h
  · obtain ⟨surface, event, _, _, -, hmem⟩ := hcalls.called htask
    have hended := h.endAura hmem hhandler
    obtain ⟨task, frames, game⟩ := c
    cases htask
    cases hstep
    change EndingsUnspent (startCall game frames id listener args).game.board
    unfold startCall
    split
    · unfold leftBy at hended
      rw [hhandler]
      unfold startHandling Config.after onBoard
      dsimp only at hended ⊢
      cases hrun : Game.endAura id aura game.board <;> simpa only [hrun] using hended
    · exact h

lemma endingsUnspent_of_stirred {settings : Settings} {host : σ} {game : Game σ}
    (hnew : Game.new settings host = .ok game) {program : Program σ} {c : Config σ}
    (h : Stirred ⟨.run program, [], game⟩ c) : EndingsUnspent c.game.board := by
  induction h with
  | refl =>
    have hspent : game.board.spent = [] := by
      obtain ⟨players, hboard, -⟩ := new_eq (board_new hnew)
      rw [hboard]
    exact ⟨keepersFit_start hnew, by simp [hspent], by simp [hspent]⟩
  | tail hfirst hlast ih =>
    obtain ⟨game', hstep, hboard⟩ := hlast
    rw [hboard]
    exact ih.step (callsFit_of_stirred hnew hfirst) hstep

end Steps

end CardEffects.Proofs
