import CardEffects.Proofs.Histories
import CardEffects.Proofs.Registers
import CardEffects.Proofs.Seats

/-!
# Steps of a history

What each move does to a board, said once for all that is proved by induction on histories.
-/

namespace CardEffects.Proofs

namespace Move

/-- Whether a move has no part in who is in play, in the register of auras or in any stat. -/
def Quiet : Move → Prop
  | .bind _ _ _ | .unbind _ _ _ | .equip _ _ | .spend _ | .enter _ _ | .conclude | .passTurn => True
  | _ => False

/-- Whether a move works on the register of auras. -/
def OnRegister : Move → Prop
  | .addAura _ _ _ | .removeAura _ | .refreshAura _ => True
  | _ => False

end Move

lemma standing_quiet {move : Move} (h : move.Quiet) (b : Board) :
    standing (leftBy move.run b) = standing b := by
  cases move with
  | bind surface event listener =>
    simp only [Move.run, leftBy_discard]
    unfold leftBy
    rw [subscribe_run]
    cases b.character? surface with
    | none => rfl
    | some c => exact standing_subscribed b surface event listener
  | unbind surface event listener => exact within_standing_unsubscribe surface event listener b
  | equip owner f =>
    exact standing_modifyCharacter b owner (f := fun c => { c with effects := f c.effects })
      fun _ => rfl
  | spend listener => rfl
  | enter surface event => rfl
  | conclude => rfl
  | passTurn => rfl
  | _ => exact h.elim

lemma place_step (player : PlayerId) (spot : Option Nat) (name : String) (attack health : Amount)
    (b : Board) :
    leftBy (Move.place player spot name attack health).run b = b ∨ ∃ index stats,
      (∃ seat, b.players.get? player = some seat ∧ index ≤ seat.minions.length) ∧
      leftBy (Move.place player spot name attack health).run b =
        placed b player index { name, controller := player, body := { stats } } := by
  simp only [Move.run, leftBy_discard]
  rcases placeMinion_outcome player spot name attack health b with
    ⟨index, stats, hseat, hrun⟩ | ⟨fault, hrun⟩
  · exact .inr ⟨index, stats, hseat, leftBy_of_ok hrun⟩
  · exact .inl (leftBy_of_error hrun)

lemma leave_step (id : EntityId) (b : Board) :
    leftBy (Move.leave id).run b = b ∨ ∃ minion, b.minion? id = some minion ∧
      b.aurasOwnedBy id = [] ∧ leftBy (Move.leave id).run b = departed b minion.controller id := by
  rw [leftBy_leave]
  by_cases howns : b.aurasOwnedBy id = []
  · have hleave := leavePlay_run id b
    rw [if_pos howns]
    cases hminion : b.minion? id with
    | none =>
      simp only [hminion] at hleave
      exact .inl (leftBy_of_error hleave)
    | some minion =>
      simp only [hminion] at hleave
      exact .inr ⟨minion, rfl, howns, leftBy_of_ok hleave⟩
  · exact .inl (if_neg howns)

lemma write_step (entity : EntityId) (key : String) (f : Amount → Option Amount) (b : Board) :
    leftBy (Move.write entity key f).run b = b ∨ ∃ value,
      leftBy (Move.write entity key f).run b =
        b.modifyCharacter entity (·.withStat key value) := by
  simp only [Move.run, leftBy_discard]
  have hrun := updateStat_run entity key f b
  cases hc : b.character? entity with
  | none =>
    simp only [hc] at hrun
    exact .inl (leftBy_of_error hrun)
  | some c =>
    cases hf : f (c.stat key) with
    | none =>
      simp only [hc, hf] at hrun
      exact .inl (leftBy_of_error hrun)
    | some value =>
      simp only [hc, hf] at hrun
      exact .inr ⟨value, leftBy_of_ok hrun⟩

lemma auras_step {move : Move} (h : ¬move.OnRegister) (b : Board) :
    (leftBy move.run b).auras = b.auras := by
  by_cases hquiet : move.Quiet
  · exact auras_eq_of_outline (outline_eq_of_standing (standing_quiet hquiet b))
  · cases move with
    | place player spot name attack health =>
      rcases place_step player spot name attack health b with hsame | ⟨index, stats, -, hplaced⟩
      · rw [hsame]
      · rw [hplaced]
        rfl
    | leave id =>
      rcases leave_step id b with hsame | ⟨minion, -, -, hdeparted⟩
      · rw [hsame]
      · rw [hdeparted]
        rfl
    | write entity key f =>
      rcases write_step entity key f b with hsame | ⟨value, hwritten⟩
      · rw [hsame]
      · rw [hwritten]
        exact auras_eq_of_outline (outline_modifyCharacter _ _ _)
    | addAura _ _ _ => exact absurd trivial h
    | removeAura _ => exact absurd trivial h
    | refreshAura _ => exact absurd trivial h
    | _ => exact absurd trivial hquiet

/-! ### The register -/

lemma addAura_step (holder : PlayerId) (owner : EntityId) (aura : Aura) (b : Board) :
    outline (leftBy (Move.addAura holder owner aura).run b) = outline b ∨
    outline (leftBy (Move.addAura holder owner aura).run b) = outline (numbered b) ∨
    ∃ aura' b₁, b.contains owner = true ∧
      aura.switchOn (nextSlot b holder owner) (numbered b) = .ok aura' b₁ ∧
      outline (leftBy (Move.addAura holder owner aura).run b) =
        { outline b with
          auras := Table.insert b.auras ⟨b.nextAura⟩ ⟨nextSlot b holder owner, aura'⟩
          nextAura := b.nextAura + 1 } := by
  simp only [Move.run, leftBy_discard]
  cases hrun : Board.addAura holder owner aura b with
  | error fault b' =>
    rw [leftBy_of_error hrun]
    rcases addAura_error hrun with rfl | hshift
    · exact .inl rfl
    · exact .inr (.inl hshift.outline_eq)
  | ok id b' =>
    obtain ⟨-, howner, aura', b₁, hon, rfl⟩ := addAura_ok hrun
    refine .inr (.inr ⟨aura', b₁, howner, hon, ?_⟩)
    have houtline : outline b₁ = outline (numbered b) := outline_switchOn hon
    have hauras : b₁.auras = b.auras := congrArg Outline.auras houtline
    rw [leftBy_of_ok hrun, outline_registered, houtline, hauras]
    rfl

lemma refreshAura_step (id : AuraId) (b : Board) :
    outline (leftBy (Move.refreshAura id).run b) = outline b ∨ ∃ slot aura active,
      Table.get? b.auras id = some { slot, aura := .minions aura } ∧
      outline (leftBy (Move.refreshAura id).run b) =
        { outline b with auras := Table.modify b.auras id fun old =>
          { old with aura := .minions { aura with active } } } := by
  simp only [Move.run]
  cases hrun : Board.refreshAura id b with
  | error fault b' =>
    obtain ⟨slot, aura, b₁, hget, hbare, rfl⟩ := refreshAura_error hrun
    have houtline := outline_eq_of_bare hbare
    have hauras : b₁.auras = b.auras := auras_eq_of_outline houtline
    refine .inr ⟨slot, aura, none, hget, ?_⟩
    rw [leftBy_of_error hrun, outline_replaced, houtline, hauras]
    rfl
  | ok _ b' =>
    rcases refreshAura_ok hrun with
      rfl | ⟨slot, aura, b₁, matched, b₂, hget, -, hbare, -, hshift, rfl⟩
    · exact .inl (by rw [leftBy_of_ok hrun])
    · have houtline := outline_eq_of_bare (hshift.bare_eq.trans hbare)
      have hauras : b₂.auras = b.auras := auras_eq_of_outline houtline
      refine .inr ⟨slot, aura, some (slot, matched), hget, ?_⟩
      rw [leftBy_of_ok hrun, outline_replaced, houtline, hauras]

lemma auras_addAura_step (holder : PlayerId) (owner : EntityId) (aura : Aura) (b : Board) :
    (leftBy (Move.addAura holder owner aura).run b).auras = b.auras ∨
    ∃ aura' b₁, aura.switchOn (nextSlot b holder owner) (numbered b) = .ok aura' b₁ ∧
      (leftBy (Move.addAura holder owner aura).run b).auras =
        Table.insert b.auras ⟨b.nextAura⟩ ⟨nextSlot b holder owner, aura'⟩ := by
  rcases addAura_step holder owner aura b with hsame | hnumber | ⟨aura', b₁, -, hon, hadded⟩
  · exact .inl (auras_eq_of_outline hsame)
  · exact .inl (auras_eq_of_outline (b := numbered b) hnumber)
  · exact .inr ⟨aura', b₁, hon, congrArg Outline.auras hadded⟩

lemma auras_removeAura_step (id : AuraId) (b : Board) :
    (leftBy (Move.removeAura id).run b).auras = Table.erase b.auras id :=
  congrArg Outline.auras (outline_removeAura id b)

lemma auras_refreshAura_step (id : AuraId) (b : Board) :
    (leftBy (Move.refreshAura id).run b).auras = b.auras ∨ ∃ slot aura active,
      Table.get? b.auras id = some { slot, aura := .minions aura } ∧
      (leftBy (Move.refreshAura id).run b).auras = Table.modify b.auras id fun old =>
        { old with aura := .minions { aura with active } } := by
  rcases refreshAura_step id b with hsame | ⟨slot, aura, active, hold, hrefreshed⟩
  · exact .inl (auras_eq_of_outline hsame)
  · exact .inr ⟨slot, aura, active, hold, congrArg Outline.auras hrefreshed⟩

/-- Where a registered aura comes from: it was registered as it is, or it has just been added, or it
is a minion aura that has just been refreshed. -/
lemma registered_step {move : Move} {b : Board} {id : AuraId} {active : ActiveAura}
    (hget : Table.get? (leftBy move.run b).auras id = some active) :
    Table.get? b.auras id = some active ∨
    (∃ holder owner aura aura' b₁, move = .addAura holder owner aura ∧ id = ⟨b.nextAura⟩ ∧
      aura.switchOn (nextSlot b holder owner) (numbered b) = .ok aura' b₁ ∧
      active = ⟨nextSlot b holder owner, aura'⟩) ∨
    ∃ slot aura on, move = .refreshAura id ∧
      Table.get? b.auras id = some { slot, aura := .minions aura } ∧
      active = { slot, aura := .minions { aura with active := on } } := by
  cases move with
  | addAura holder owner aura =>
    rcases auras_addAura_step holder owner aura b with hsame | ⟨aura', b₁, hon, hadded⟩
    · rw [hsame] at hget
      exact .inl hget
    · rw [hadded] at hget
      by_cases hid : (⟨b.nextAura⟩ : AuraId) = id
      · rw [hid, Table.get?_insert_self] at hget
        exact .inr (.inl ⟨holder, owner, aura, aura', b₁, rfl, hid.symm, hon,
          (Option.some.inj hget).symm⟩)
      · rw [Table.get?_insert_of_ne _ _ hid] at hget
        exact .inl hget
  | removeAura id' =>
    rw [auras_removeAura_step] at hget
    by_cases hid : id' = id
    · rw [hid, Table.get?_erase_self] at hget
      cases hget
    · rw [Table.get?_erase_of_ne _ hid] at hget
      exact .inl hget
  | refreshAura id' =>
    rcases auras_refreshAura_step id' b with hsame | ⟨slot, aura, on, hold, hrefreshed⟩
    · rw [hsame] at hget
      exact .inl hget
    · rw [hrefreshed] at hget
      by_cases hid : id' = id
      · subst hid
        rw [Table.get?_modify_self, hold] at hget
        exact .inr (.inr ⟨slot, aura, on, rfl, hold, (Option.some.inj hget).symm⟩)
      · rw [Table.get?_modify_of_ne _ _ hid] at hget
        exact .inl hget
  | _ =>
    rw [auras_step (by simp [Move.OnRegister])] at hget
    exact .inl hget

lemma stays_registered_step {move : Move} {b : Board} {id : AuraId} {active : ActiveAura}
    (hget : Table.get? b.auras id = some active) (hmove : move ≠ .removeAura id) :
    ∃ active', Table.get? (leftBy move.run b).auras id = some active' := by
  cases move with
  | addAura holder owner aura =>
    rcases auras_addAura_step holder owner aura b with hsame | ⟨aura', b₁, -, hadded⟩
    · rw [hsame]
      exact ⟨active, hget⟩
    · rw [hadded]
      by_cases hid : (⟨b.nextAura⟩ : AuraId) = id
      · rw [hid, Table.get?_insert_self]
        exact ⟨_, rfl⟩
      · rw [Table.get?_insert_of_ne _ _ hid]
        exact ⟨active, hget⟩
  | removeAura id' =>
    have hid : id' ≠ id := fun hid => hmove (by rw [hid])
    rw [auras_removeAura_step, Table.get?_erase_of_ne _ hid]
    exact ⟨active, hget⟩
  | refreshAura id' =>
    rcases auras_refreshAura_step id' b with hsame | ⟨slot, aura, on, -, hrefreshed⟩
    · rw [hsame]
      exact ⟨active, hget⟩
    · rw [hrefreshed]
      by_cases hid : id' = id
      · rw [hid, Table.get?_modify_self, hget]
        exact ⟨_, rfl⟩
      · rw [Table.get?_modify_of_ne _ _ hid]
        exact ⟨active, hget⟩
  | _ =>
    rw [auras_step (by simp [Move.OnRegister])]
    exact ⟨active, hget⟩

/-- Who is in play, and the number of the next minion. -/
def seating (board : Board) : List (List EntityId) × Table EntityId PlayerId × Nat :=
  ((outline board).sides, (outline board).controllers, (outline board).nextEntity)

lemma seating_eq_of_outline {b b' : Board} (h : outline b' = outline b) :
    seating b' = seating b := by
  unfold seating
  rw [h]

lemma seating_step (move : Move) (h : move.OnRegister) (b : Board) :
    seating (leftBy move.run b) = seating b := by
  cases move with
  | addAura holder owner aura =>
    rcases addAura_step holder owner aura b with hsame | hnumbered | ⟨aura', b₁, -, -, hadded⟩
    · exact seating_eq_of_outline hsame
    · exact seating_eq_of_outline (b := numbered b) hnumbered
    · unfold seating
      rw [hadded]
  | removeAura id =>
    unfold seating
    rw [Move.run, outline_removeAura]
  | refreshAura id =>
    rcases refreshAura_step id b with hsame | ⟨slot, aura, active, -, hrefreshed⟩
    · exact seating_eq_of_outline hsame
    · unfold seating
      rw [hrefreshed]
  | _ => exact h.elim

lemma seating_cases (move : Move) (b : Board) :
    seating (leftBy move.run b) = seating b ∨
    (∃ player index minion, minion.controller = player ∧
      (∃ seat, b.players.get? player = some seat ∧ index ≤ seat.minions.length) ∧
      leftBy move.run b = placed b player index minion) ∨
    ∃ id minion, b.minion? id = some minion ∧
      leftBy move.run b = departed b minion.controller id := by
  by_cases hregister : move.OnRegister
  · exact .inl (seating_step _ hregister b)
  by_cases hquiet : move.Quiet
  · exact .inl (seating_eq_of_outline (outline_eq_of_standing (standing_quiet hquiet b)))
  cases move with
  | place player spot name attack health =>
    rcases place_step player spot name attack health b with hsame | ⟨index, stats, hseat, hplaced⟩
    · exact .inl (congrArg seating hsame)
    · exact .inr (.inl ⟨player, index, _, rfl, hseat, hplaced⟩)
  | leave leaver =>
    rcases leave_step leaver b with hsame | ⟨minion, hminion, -, hdeparted⟩
    · exact .inl (congrArg seating hsame)
    · exact .inr (.inr ⟨leaver, minion, hminion, hdeparted⟩)
  | write entity key f =>
    rcases write_step entity key f b with hsame | ⟨value, hwritten⟩
    · exact .inl (congrArg seating hsame)
    · rw [hwritten]
      exact .inl (seating_eq_of_outline (outline_modifyCharacter _ _ _))
  | addAura _ _ _ => exact absurd trivial hregister
  | removeAura _ => exact absurd trivial hregister
  | refreshAura _ => exact absurd trivial hregister
  | _ => exact absurd trivial hquiet

lemma contains_eq_of_seating {b b' : Board} (h : seating b' = seating b) :
    b'.contains = b.contains := by
  have hsides : (outline b').sides = (outline b).sides := congrArg (·.1) h
  have hcontrollers : (outline b').controllers = (outline b).controllers := congrArg (·.2.1) h
  funext entity
  rw [Bool.eq_iff_iff, ← inPlay_outline_iff, ← inPlay_outline_iff]
  unfold Outline.InPlay
  rw [hsides, hcontrollers]

lemma nextAura_step (move : Move) (b : Board) : b.nextAura ≤ (leftBy move.run b).nextAura := by
  change (outline b).nextAura ≤ (outline (leftBy move.run b)).nextAura
  by_cases hquiet : move.Quiet
  · rw [outline_eq_of_standing (standing_quiet hquiet b)]
  cases move with
  | place player spot name attack health =>
    rcases place_step player spot name attack health b with hsame | ⟨index, stats, -, hplaced⟩
    · rw [hsame]
    · rw [hplaced, outline_placed]
  | leave id =>
    rcases leave_step id b with hsame | ⟨minion, -, -, hdeparted⟩
    · rw [hsame]
    · rw [hdeparted, outline_departed]
  | write entity key f =>
    rcases write_step entity key f b with hsame | ⟨value, hwritten⟩
    · rw [hsame]
    · rw [hwritten, outline_modifyCharacter]
  | addAura holder owner aura =>
    rcases addAura_step holder owner aura b with hsame | hnumbered | ⟨aura', b₁, -, -, hadded⟩
    · rw [hsame]
    · rw [hnumbered]
      exact Nat.le_succ _
    · rw [hadded]
      exact Nat.le_succ _
  | removeAura id => rw [Move.run, outline_removeAura]
  | refreshAura id =>
    rcases refreshAura_step id b with hsame | ⟨slot, aura, active, -, hrefreshed⟩
    · rw [hsame]
    · rw [hrefreshed]
  | _ => exact absurd trivial hquiet

end CardEffects.Proofs
