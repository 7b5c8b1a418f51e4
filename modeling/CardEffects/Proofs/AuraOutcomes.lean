import CardEffects.Proofs.StatShifts
import CardEffects.Proofs.Surfaces

/-!
# Outcomes of auras

What it does to a board to switch an aura on or off, and from that, what it does to add, remove or
refresh one.
-/

namespace CardEffects.Proofs

/-! ### Minion auras -/

lemma minions_switchOn_run (aura : MinionAura) (slot : Slot) (b : Board) :
    aura.switchOn slot b =
      if aura.active.isSome then .error (.alreadyActive .minionAura) b
      else
        match aura.matched b slot.owner with
        | .error fault => .error fault b
        | .ok matched =>
          match aura.change.makeAll [] matched b with
          | .error fault b' => .error fault b'
          | .ok _ b' => .ok { aura with active := some (slot, matched) } b' := by
  unfold MinionAura.switchOn
  by_cases hactive : aura.active.isSome
  · simp [hactive]
  · cases hmatched : aura.matched b slot.owner with
    | error fault => simp [hactive, hmatched]
    | ok matched =>
      cases hmake : aura.change.makeAll [] matched b <;> simp [hactive, hmatched, hmake]

lemma minions_switchOn_ok {aura aura' : MinionAura} {slot : Slot} {b b' : Board}
    (h : aura.switchOn slot b = .ok aura' b') :
    ∃ matched, aura.matched b slot.owner = .ok matched ∧
      aura' = { aura with active := some (slot, matched) } ∧
      Shifted b b' (onTargets matched (delta aura.change)) := by
  rw [minions_switchOn_run] at h
  split at h
  · cases h
  · cases hmatched : aura.matched b slot.owner with
    | error fault => simp [hmatched] at h
    | ok matched =>
      cases hmake : aura.change.makeAll [] matched b with
      | error fault b₁ => simp [hmatched, hmake] at h
      | ok _ b₁ =>
        simp only [hmatched, hmake, EStateM.Result.ok.injEq] at h
        obtain ⟨rfl, rfl⟩ := h
        exact ⟨matched, rfl, rfl, makeAll_ok _ _ _ hmake⟩

lemma minions_switchOn_error {aura : MinionAura} {slot : Slot} {b b' : Board} {fault : Fault}
    (h : aura.switchOn slot b = .error fault b') : Shifted b b' fun _ _ => 0 := by
  rw [minions_switchOn_run] at h
  split at h
  · cases h
    exact shifted_refl b
  · cases hmatched : aura.matched b slot.owner with
    | error fault =>
      simp only [hmatched, EStateM.Result.error.injEq] at h
      rw [← h.2]
      exact shifted_refl b
    | ok matched =>
      cases hmake : aura.change.makeAll [] matched b with
      | ok _ b₁ => simp [hmatched, hmake] at h
      | error fault b₁ =>
        simp only [hmatched, hmake, EStateM.Result.error.injEq] at h
        rw [← h.2]
        have hnone : Shifted b b (onTargets [] (delta aura.change)) :=
          (shifted_refl b).congr fun entity key => by simp [onTargets]
        exact (makeAll_error _ _ (by simp) hnone hmake).1

lemma minions_switchOff_run (aura : MinionAura) (b : Board) :
    aura.switchOff b =
      match aura.active with
      | none => .error (.notActive .minionAura) b
      | some (slot, affected) =>
        match aura.leaving b slot.owner affected with
        | .error fault => .error fault b
        | .ok targets => aura.change.undoOnMinions targets b := by
  unfold MinionAura.switchOff
  cases aura.active with
  | none => simp
  | some active => cases hleaving : aura.leaving b active.1.owner active.2 <;> simp [hleaving]

lemma minions_switchOff_bare (aura : MinionAura) (b : Board) :
    bare (leftBy aura.switchOff b) = bare b := by
  unfold leftBy
  rw [minions_switchOff_run]
  cases aura.active with
  | none => rfl
  | some active =>
    cases hleaving : aura.leaving b active.1.owner active.2 with
    | error fault => simp [hleaving]
    | ok targets =>
      simp only [hleaving]
      rcases undoOnMinions_outcome aura.change targets b with
        ⟨b', hrun, hshift⟩ | ⟨_, _, _, _, b', -, hrun, hshift, -⟩ <;>
      · rw [hrun]
        exact hshift.bare_eq

/-! ### Player auras -/

lemma nextListener_eq_of_bare {b b' : Board} (h : bare b' = bare b) :
    b'.nextListener = b.nextListener :=
  (congrArg Board.nextListener h : (bare b').nextListener = (bare b).nextListener)

lemma outline_of_makes {change : StatChange} {targets : List EntityId} {b b' : Board}
    (h : targets.forM change.make b = .ok () b') : outline b' = outline b := by
  induction targets generalizing b with
  | nil =>
    cases h
    rfl
  | cons target targets ih =>
    cases hmake : change.make target b with
    | error fault b₁ => simp [hmake] at h
    | ok _ b₁ =>
      rw [ih (by simpa [hmake] using h), ((make_shifts change target).ok hmake).2.outline_eq]

lemma FailsOn.blames {change : StatChange} {targets : List EntityId} {b : Board}
    {target : EntityId} {fault : Fault} (h : FailsOn change targets b target fault) :
    target ∈ targets ∧ Blames b target fault := by
  obtain ⟨first, rest, b₁, b₂, rfl, hfirst, hfault⟩ := h
  have hblames := ((make_shifts change target).error hfault).2.2
  refine ⟨by simp, ?_⟩
  unfold Blames at hblames ⊢
  rwa [contains_eq_of_outline (outline_of_makes hfirst)] at hblames

lemma undo_after_make {change : StatChange} {target : EntityId} {b b₁ : Board}
    (h : change.make target b = .ok () b₁) :
    ∃ b₂, change.undo target b₁ = .ok () b₂ ∧ Shifted b b₂ fun _ _ => 0 :=
  (make_shifts change target).undone (undo_shifts change target) (fun _ => rfl) h

def endingListener (aura : PlayerAura) (slot : Slot) : Listener :=
  { gate := aura.ending.condition.map fun condition => (condition, slot.owner)
    handler := .endAura slot.id }

/-- The subscription to the ending of an aura that is the next one on a board. -/
def endingBinding (aura : PlayerAura) (slot : Slot) (surface : EntityId) (board : Board) :
    Binding :=
  { target := slot.owner
    surface
    event := aura.ending.name
    listener := ⟨board.nextListener⟩ }

lemma player_switchOn_run (aura : PlayerAura) (slot : Slot) (b : Board) :
    aura.switchOn slot b =
      if aura.active.isSome then .error (.alreadyActive .playerAura) b
      else
        match aura.change.make slot.owner b with
        | .error fault b₁ => .error fault b₁
        | .ok _ b₁ =>
          match aura.ending.subscribe slot.owner (.endAura slot.id) b₁ with
          | .ok binding b₂ => .ok { aura with active := some (slot, binding) } b₂
          | .error fault b₂ =>
            match aura.change.undo slot.owner b₂ with
            | .ok _ b₃ => .error fault b₃
            | .error fault' b₃ => .error fault' b₃ := by
  unfold PlayerAura.switchOn
  by_cases hactive : aura.active.isSome
  · simp [hactive]
  · cases hmake : aura.change.make slot.owner b with
    | error fault b₁ => simp [hactive, hmake]
    | ok _ b₁ =>
      cases hbind : aura.ending.subscribe slot.owner (.endAura slot.id) b₁ with
      | ok binding b₂ => simp [hactive, hmake, attempt_run_ok hbind, hbind]
      | error fault b₂ =>
        cases hundo : aura.change.undo slot.owner b₂ <;>
          simp [hactive, hmake, attempt_run_error hbind, hbind, hundo]

lemma player_switchOn_ok {aura aura' : PlayerAura} {slot : Slot} {b b' : Board}
    (h : aura.switchOn slot b = .ok aura' b') :
    ∃ b₁ surface c, Shifted b b₁ (onTarget slot.owner (delta aura.change)) ∧
      aura.ending.surface b₁ slot.owner = .ok surface ∧ b₁.character? surface = some c ∧
      aura' = { aura with active := some (slot, endingBinding aura slot surface b₁) } ∧
      b' = subscribed b₁ surface aura.ending.name (endingListener aura slot) := by
  rw [player_switchOn_run] at h
  split at h
  · cases h
  · cases hmake : aura.change.make slot.owner b with
    | error fault b₁ => simp [hmake] at h
    | ok _ b₁ =>
      rcases event_subscribe_outcome aura.ending slot.owner (.endAura slot.id) b₁ with
        ⟨surface, c, hsurface, hc, hrun⟩ | ⟨fault, hrun⟩
      · simp only [hmake, hrun, EStateM.Result.ok.injEq] at h
        obtain ⟨rfl, rfl⟩ := h
        exact ⟨b₁, surface, c, ((make_shifts _ _).ok hmake).2, hsurface, hc, rfl, rfl⟩
      · obtain ⟨b₂, hundo, -⟩ := undo_after_make hmake
        simp [hmake, hrun, hundo] at h

lemma player_switchOn_error {aura : PlayerAura} {slot : Slot} {b b' : Board} {fault : Fault}
    (h : aura.switchOn slot b = .error fault b') : Shifted b b' fun _ _ => 0 := by
  rw [player_switchOn_run] at h
  split at h
  · cases h
    exact shifted_refl b
  · cases hmake : aura.change.make slot.owner b with
    | error fault b₁ =>
      simp only [hmake, EStateM.Result.error.injEq] at h
      rw [← h.2]
      exact ((make_shifts _ _).error hmake).2.1
    | ok _ b₁ =>
      rcases event_subscribe_outcome aura.ending slot.owner (.endAura slot.id) b₁ with
        ⟨surface, c, -, hc, hrun⟩ | ⟨fault', hrun⟩
      · simp [hmake, hrun] at h
      · obtain ⟨b₂, hundo, hshift⟩ := undo_after_make hmake
        simp only [hmake, hrun, hundo, EStateM.Result.error.injEq] at h
        rw [← h.2]
        exact hshift

/-- Switching a player aura off takes the change back from its owner and then releases the
subscription to its ending. If the owner cannot bear the first, the second is not done. -/
lemma player_switchOff_outcome {aura : PlayerAura} {slot : Slot} {binding : Binding}
    (hactive : aura.active = some (slot, binding)) (hevent : binding.event = aura.ending.name)
    (b : Board) :
    (¬Bears b slot.owner (fun key => -delta aura.change key) ∧
      ∃ fault b', aura.switchOff b = .error fault b' ∧ Shifted b b' (fun _ _ => 0) ∧
        Blames b slot.owner fault) ∨
    (Bears b slot.owner (fun key => -delta aura.change key) ∧
      ∃ b₁, Shifted b b₁ (onTarget slot.owner fun key => -delta aura.change key) ∧
        aura.switchOff b =
          Board.unsubscribe binding.surface binding.event binding.listener b₁) := by
  have hrun : aura.switchOff b =
      match aura.change.undo slot.owner b with
      | .ok _ b₁ => Board.unsubscribe binding.surface binding.event binding.listener b₁
      | .error fault b₁ => .error fault b₁ := by
    unfold PlayerAura.switchOff Event.unsubscribe
    simp only [hactive, hevent]
    cases hundo : aura.change.undo slot.owner b <;> simp [hundo]
  rw [hrun]
  cases hundo : aura.change.undo slot.owner b with
  | error fault b₁ =>
    obtain ⟨hno, hshift, hfault⟩ := (undo_shifts _ _).error hundo
    exact .inl ⟨hno, fault, b₁, rfl, hshift, hfault⟩
  | ok _ b₁ =>
    obtain ⟨hbears, hshift⟩ := (undo_shifts _ _).ok hundo
    exact .inr ⟨hbears, b₁, hshift, rfl⟩

end CardEffects.Proofs
