import CardEffects.Proofs.Detachments

/-!
# Quiet changes

A change is quiet if it has no part in who is in play, in any subscription, and in the effects and
player auras that keep subscriptions. Writing stats is quiet, and so is all that minion auras do.
-/

namespace CardEffects.Proofs

/-- One board comes from another by steps that are quiet together. -/
structure Quiet (b b' : Board) : Prop where
  develops : Develops b b'
  listening_eq : listening b' = listening b
  seating_eq : seating b' = seating b
  upkeep_eq : upkeep b' = upkeep b

instance : IsPreorder Board Quiet where
  refl b := ⟨refl (r := Develops) b, rfl, rfl, rfl⟩
  trans _ _ _ h h' :=
    ⟨Trans.trans h.develops h'.develops, h'.listening_eq.trans h.listening_eq,
      h'.seating_eq.trans h.seating_eq, h'.upkeep_eq.trans h.upkeep_eq⟩

lemma Quiet.of_bare {b b' : Board} (hdev : Develops b b') (h : bare b' = bare b) : Quiet b b' :=
  ⟨hdev, listening_eq_of_bare h, seating_eq_of_outline (outline_eq_of_bare h), upkeep_eq_of_bare h⟩

lemma within_quiet_of_bare {α : Type} {operation : BoardM α} (hdev : Within Develops operation)
    (h : Within (Same bare) operation) : Within Quiet operation :=
  fun b => .of_bare (hdev b) (h b)

/-! ### Stats -/

lemma bare_updateStat (entity : EntityId) (key : String) (f : Amount → Option Amount) :
    Within (Same bare) (Board.updateStat entity key f) := by
  intro b
  have hleft : leftBy (Move.write entity key f).run b = leftBy (Board.updateStat entity key f) b :=
    leftBy_discard _ _
  rw [← hleft]
  rcases write_step entity key f b with hsame | ⟨value, hwritten⟩
  · rw [hsame]
    exact refl b
  · rw [hwritten]
    exact bare_modifyCharacter b entity _ fun _ => rfl

lemma bare_setStat (entity : EntityId) (key : String) (value : Amount) :
    Within (Same bare) (Board.setStat entity key value) := by
  unfold Board.setStat
  exact (within_character entity).bind fun _ =>
    fun b => bare_modifyCharacter b entity (·.withStat key value) fun _ => rfl

lemma Shifts.bare {operation : BoardM Unit} {target : EntityId} {d : String → Int}
    (h : Shifts operation target d) : Within (Same bare) operation := by
  intro b
  cases hrun : operation b with
  | ok _ b' =>
    rw [leftBy_of_ok hrun]
    exact (h.ok hrun).2.bare_eq
  | error fault b' =>
    rw [leftBy_of_error hrun]
    exact (h.error hrun).2.1.bare_eq

lemma quiet_updateStat (entity : EntityId) (key : String) (f : Amount → Option Amount) :
    Within Quiet (Board.updateStat entity key f) :=
  within_quiet_of_bare (within_updateStat _ _ _) (bare_updateStat _ _ _)

lemma quiet_setStat (entity : EntityId) (key : String) (value : Amount) :
    Within Quiet (Board.setStat entity key value) :=
  within_quiet_of_bare (within_setStat _ _ _) (bare_setStat _ _ _)

lemma quiet_make (change : StatChange) (target : EntityId) : Within Quiet (change.make target) :=
  within_quiet_of_bare (within_make _ _) (make_shifts change target).bare

lemma quiet_undo (change : StatChange) (target : EntityId) : Within Quiet (change.undo target) :=
  within_quiet_of_bare (within_undo _ _) (undo_shifts change target).bare

lemma quiet_heal (target : EntityId) (amount : Amount) : Within Quiet (Board.heal target amount) :=
  within_get.bind fun _ => quiet_setStat _ _ _

/-! ### Minion auras -/

lemma quiet_minions_switchOn (aura : MinionAura) (slot : Slot) :
    Within Quiet (aura.switchOn slot) := by
  intro b
  have hdev := Handles.switchOn (R := Works) (.minions aura) slot b
  have hsame : leftBy (Aura.switchOn (.minions aura) slot) b = leftBy (aura.switchOn slot) b := by
    unfold leftBy Aura.switchOn
    cases hon : aura.switchOn slot b <;> simp [hon]
  rw [hsame] at hdev
  refine .of_bare hdev.develops ?_
  cases hon : aura.switchOn slot b with
  | ok aura' b' =>
    obtain ⟨matched, -, -, hshift⟩ := minions_switchOn_ok hon
    rw [leftBy_of_ok hon]
    exact hshift.bare_eq
  | error fault b' =>
    rw [leftBy_of_error hon]
    exact (minions_switchOn_error hon).bare_eq

lemma quiet_minions_switchOff (aura : MinionAura) : Within Quiet aura.switchOff := fun b =>
  .of_bare (Handles.switchOff (R := Works) (.minions aura) b).develops (minions_switchOff_bare aura b)

lemma playerAura?_replaced {b : Board} {id : AuraId} {slot : Slot} {aura : MinionAura}
    (hget : Table.get? b.auras id = some { slot, aura := .minions aura }) (aura' : MinionAura) :
    playerAura? (replaced b id (.minions aura')) = playerAura? b := by
  funext other
  unfold playerAura? replaced
  by_cases hid : id = other
  · subst hid
    rw [Table.get?_modify_self, hget]
    rfl
  · rw [Table.get?_modify_of_ne _ _ hid]

lemma upkeep_refreshAura (id : AuraId) (b : Board) :
    upkeep (leftBy (Board.refreshAura id) b) = upkeep b := by
  have hreplaced : ∀ {b₁ : Board} {slot : Slot} {aura aura' : MinionAura}, bare b₁ = bare b →
      Table.get? b.auras id = some { slot, aura := .minions aura } →
        upkeep (replaced b₁ id (.minions aura')) = upkeep b := by
    intro b₁ slot aura aura' hbare hget
    rw [← auras_eq_of_outline (outline_eq_of_bare hbare)] at hget
    refine Eq.trans ?_ (upkeep_eq_of_bare hbare)
    exact upkeep_eq_of_character? (b := b₁) rfl (playerAura?_replaced hget aura')
  cases hrun : Board.refreshAura id b with
  | error fault b' =>
    obtain ⟨slot, aura, b₁, hget, hbare, rfl⟩ := refreshAura_error hrun
    rw [leftBy_of_error hrun]
    exact hreplaced hbare hget
  | ok _ b' =>
    rw [leftBy_of_ok hrun]
    rcases refreshAura_ok hrun with
      rfl | ⟨slot, aura, b₁, matched, b₂, hget, -, hbare, -, hshift, rfl⟩
    · rfl
    · exact hreplaced (hshift.bare_eq.trans hbare) hget

lemma quiet_refreshAura (id : AuraId) : Within Quiet (Board.refreshAura id) := fun b =>
  ⟨within_refreshAura id b, listening_refreshAura id b, seating_step (.refreshAura id) trivial b,
    upkeep_refreshAura id b⟩

lemma within_each {R : Board → Board → Prop} [IsPreorder Board R]
    (h : ∀ id, Within R (Board.refreshAura id)) (ids : List AuraId) :
    Within R (Board.refreshEach ids) := by
  induction ids with
  | nil => exact within_pure _
  | cons id ids ih => exact (h id).bind fun _ => ih

lemma within_every {R : Board → Board → Prop} [IsPreorder Board R]
    (h : ∀ id, Within R (Board.refreshAura id)) : Within R Board.refreshAuras :=
  within_get.bind fun _ => within_each h _

lemma quiet_refreshAuras : Within Quiet Board.refreshAuras :=
  within_every quiet_refreshAura

/-! ### Turns and dispatch -/

lemma quiet_spend (listener : ListenerId) :
    Within Quiet
      (modify fun board => { board with spent := listener :: board.spent } : BoardM Unit) :=
  fun b => ⟨develops_of_move (.spend listener) trivial b, rfl, rfl, rfl⟩

lemma quiet_enter (surface : EntityId) (event : String) :
    Within Quiet (Game.enter surface event) :=
  fun b => ⟨develops_of_move (.enter surface event) trivial b, rfl, rfl, rfl⟩

lemma quiet_conclude : Within Quiet Game.leave :=
  fun b => ⟨develops_of_move .conclude trivial b, rfl, rfl, rfl⟩

lemma quiet_passTurn : Within Quiet Move.passTurn.run :=
  fun b => ⟨develops_of_move .passTurn trivial b, rfl, rfl, rfl⟩

end CardEffects.Proofs
