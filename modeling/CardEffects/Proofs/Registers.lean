import CardEffects.Proofs.AuraOutcomes

/-!
# The register of auras

Adding, removing and refreshing an aura, as a change of the register around the switching of the
aura.
-/

namespace CardEffects.Proofs

/-! ### Changes of the register -/

/-- The board with the next number of an aura used up. -/
def numbered (board : Board) : Board :=
  { board with nextAura := board.nextAura + 1 }

def nextSlot (board : Board) (holder : PlayerId) (owner : EntityId) : Slot :=
  { id := ⟨board.nextAura⟩, owner, holder }

/-- The board with an aura entered in the register. -/
def registered (board : Board) (slot : Slot) (aura : Aura) : Board :=
  { board.modifyPlayer slot.holder fun player =>
      { player with auras := player.auras ++ [slot.id] } with
    auras := Table.insert board.auras slot.id { slot, aura } }

/-- The board with an aura struck from the register. -/
def deregistered (board : Board) (id : AuraId) (holder : PlayerId) : Board :=
  { board.modifyPlayer holder fun player =>
      { player with auras := player.auras.filter (· ≠ id) } with
    auras := Table.erase board.auras id }

/-- The board with a registered aura replaced. -/
def replaced (board : Board) (id : AuraId) (aura : Aura) : Board :=
  { board with auras := Table.modify board.auras id fun active => { active with aura } }

lemma character?_modifyPlayer (b : Board) (player : PlayerId) {f : Player → Player}
    (h : ∀ p, (f p).hero = p.hero) : (b.modifyPlayer player f).character? = b.character? := by
  funext entity
  have hseat : (b.modifyPlayer player f).seat? entity = b.seat? entity := by
    unfold Board.seat? Board.playerCount Board.modifyPlayer
    rw [PerPlayer.count_modify]
  unfold Board.character?
  rw [hseat]
  cases b.seat? entity with
  | none => rfl
  | some seat =>
    by_cases hp : player = seat
    · simp [Board.modifyPlayer, PerPlayer.get?_modify, hp, Function.comp_def, h]
    · simp [Board.modifyPlayer, PerPlayer.get?_modify, hp]

lemma character?_registered (b : Board) (slot : Slot) (aura : Aura) :
    (registered b slot aura).character? = b.character? :=
  character?_modifyPlayer b slot.holder fun _ => rfl

lemma character?_deregistered (b : Board) (id : AuraId) (holder : PlayerId) :
    (deregistered b id holder).character? = b.character? :=
  character?_modifyPlayer b holder fun _ => rfl

lemma outline_registered (b : Board) (slot : Slot) (aura : Aura) :
    outline (registered b slot aura) =
      { outline b with auras := Table.insert b.auras slot.id { slot, aura } } := by
  simp only [outline, registered, Board.modifyPlayer, PerPlayer.modify]
  rw [map_list_modify _ _ _ _ (by intro p; rfl)]

lemma outline_deregistered (b : Board) (id : AuraId) (holder : PlayerId) :
    outline (deregistered b id holder) =
      { outline b with auras := Table.erase b.auras id } := by
  simp only [outline, deregistered, Board.modifyPlayer, PerPlayer.modify]
  rw [map_list_modify _ _ _ _ (by intro p; rfl)]

lemma outline_replaced (b : Board) (id : AuraId) (aura : Aura) :
    outline (replaced b id aura) =
      { outline b with
        auras := Table.modify b.auras id fun active => { active with aura } } := rfl

lemma level_eq_of_character? {b b' : Board} (h : b'.character? = b.character?) :
    level b' = level b := by
  funext entity key
  unfold level Board.stat?
  rw [h]

lemma contains_eq_of_character? {b b' : Board} (h : b'.character? = b.character?)
    (entity : EntityId) : b'.contains entity = b.contains entity := by
  rw [← character?_isSome, ← character?_isSome, h]

lemma listenersAt_eq_of_character? {b b' : Board} (h : b'.character? = b.character?) :
    listenersAt b' = listenersAt b := by
  funext surface event
  unfold listenersAt
  rw [h]

lemma bears_deregistered (b : Board) (id : AuraId) (holder : PlayerId) (target : EntityId)
    (d : String → Int) : Bears (deregistered b id holder) target d ↔ Bears b target d := by
  unfold Bears
  rw [contains_eq_of_character? (character?_deregistered b id holder),
    level_eq_of_character? (character?_deregistered b id holder)]

/-! ### Run equations -/

lemma addAura_run (holder : PlayerId) (owner : EntityId) (aura : Aura) (b : Board) :
    Board.addAura holder owner aura b =
      if (b.players.get? holder).isNone then .error (.notAPlayer holder.hero) b
      else if b.contains owner = false then .error (.unknownEntity owner) b
      else
        match aura.switchOn (nextSlot b holder owner) (numbered b) with
        | .error fault b' => .error fault b'
        | .ok aura' b' =>
          .ok ⟨b.nextAura⟩ (registered b' (nextSlot b holder owner) aura') := by
  unfold Board.addAura
  cases hholder : b.players.get? holder with
  | none => simp [hholder]
  | some player =>
    cases howner : b.contains owner with
    | false => simp [hholder, howner]
    | true =>
      cases hon : aura.switchOn (nextSlot b holder owner) (numbered b) with
      | error fault b' =>
        simp only [nextSlot, numbered] at hon
        simp [hholder, howner, hon]
      | ok aura' b' =>
        simp only [nextSlot, numbered] at hon
        simp [hholder, howner, hon, nextSlot, registered]

lemma removeAura_run (id : AuraId) (b : Board) :
    Board.removeAura id b =
      match Table.get? b.auras id with
      | none => .error (.auraNotActive id) b
      | some active => active.aura.switchOff (deregistered b id active.slot.holder) := by
  unfold Board.removeAura
  cases h : Table.get? b.auras id with
  | none => simp [h]
  | some active => simp [h, deregistered]

lemma leftBy_removeAura (id : AuraId) (b : Board) :
    leftBy (Board.removeAura id) b =
      match Table.get? b.auras id with
      | none => b
      | some active => leftBy active.aura.switchOff (deregistered b id active.slot.holder) := by
  have hrun := removeAura_run id b
  cases hget : Table.get? b.auras id with
  | none =>
    simp only [hget] at hrun ⊢
    exact leftBy_of_error hrun
  | some active =>
    simp only [hget] at hrun ⊢
    unfold leftBy
    rw [hrun]

lemma refreshAura_run (id : AuraId) (b : Board) :
    Board.refreshAura id b =
      match Table.get? b.auras id with
      | some { slot, aura := .minions aura } =>
        match aura.switchOff b with
        | .error fault b₁ => .error fault (replaced b₁ id (.minions aura.off))
        | .ok _ b₁ =>
          match aura.off.switchOn slot b₁ with
          | .error fault b₂ => .error fault (replaced b₂ id (.minions aura.off))
          | .ok aura' b₂ => .ok () (replaced b₂ id (.minions aura'))
      | _ => .ok () b := by
  unfold Board.refreshAura
  cases h : Table.get? b.auras id with
  | none => simp [h]
  | some active =>
    obtain ⟨slot, aura⟩ := active
    cases aura with
    | player aura => simp [h, Aura.tracksBoard]
    | minions aura =>
      cases hoff : aura.switchOff b with
      | error fault b₁ =>
        simp [h, Aura.tracksBoard, Aura.switchOff, attempt, hoff, Board.replaceAura, replaced,
          Aura.off]
      | ok _ b₁ =>
        cases hon : aura.off.switchOn slot b₁ <;>
          simp [h, Aura.tracksBoard, Aura.switchOff, Aura.switchOn, Aura.off, attempt, hoff, hon,
            Board.replaceAura, replaced]

/-! ### What is left of a board -/

lemma within_outline_undo (change : StatChange) (target : EntityId) :
    Within (Same outline) (change.undo target) := by
  intro b
  by_cases hbears : Bears b target fun key => -delta change key
  · obtain ⟨b', hrun, hshift⟩ := (undo_shifts change target).ok_of_bears b hbears
    rw [leftBy_of_ok hrun]
    exact hshift.outline_eq
  · obtain ⟨fault, b', hrun, hshift, -⟩ := (undo_shifts change target).error_of_not b hbears
    rw [leftBy_of_error hrun]
    exact hshift.outline_eq

lemma outline_switchOff (aura : Aura) (b : Board) :
    outline (leftBy aura.switchOff b) = outline b := by
  cases aura with
  | minions aura => exact outline_eq_of_bare (minions_switchOff_bare aura b)
  | player aura =>
    change Same outline b (leftBy aura.switchOff b)
    unfold PlayerAura.switchOff
    cases aura.active with
    | none => exact within_throw _ b
    | some active =>
      refine (within_outline_undo _ _).bind (fun _ => ?_) b
      exact (within_standing_release _ _).mono fun _ _ => outline_eq_of_standing

lemma outline_removeAura (id : AuraId) (b : Board) :
    outline (leftBy (Board.removeAura id) b) =
      { outline b with auras := Table.erase b.auras id } := by
  have hrun := removeAura_run id b
  cases hget : Table.get? b.auras id with
  | none =>
    simp only [hget] at hrun
    rw [leftBy_of_error hrun, erase_eq_self hget]
    rfl
  | some active =>
    simp only [hget] at hrun
    have hleft : leftBy (Board.removeAura id) b =
        leftBy active.aura.switchOff (deregistered b id active.slot.holder) := by
      unfold leftBy
      rw [hrun]
    rw [hleft, outline_switchOff, outline_deregistered]

lemma get?_removeAura (id : AuraId) (b : Board) :
    Table.get? (leftBy (Board.removeAura id) b).auras id = none := by
  have hauras : (leftBy (Board.removeAura id) b).auras = Table.erase b.auras id :=
    congrArg Outline.auras (outline_removeAura id b)
  rw [hauras, Table.get?_erase_self]

lemma aura_switchOn_ok {aura aura' : Aura} {slot : Slot} {b b' : Board}
    (h : aura.switchOn slot b = .ok aura' b') :
    (∃ m m', aura = .minions m ∧ aura' = .minions m' ∧ m.switchOn slot b = .ok m' b') ∨
    ∃ p p', aura = .player p ∧ aura' = .player p' ∧ p.switchOn slot b = .ok p' b' := by
  cases aura with
  | minions m =>
    obtain ⟨m', b₁, hon, hend⟩ := bind_ok h
    cases hend
    exact .inl ⟨m, m', rfl, rfl, hon⟩
  | player p =>
    obtain ⟨p', b₁, hon, hend⟩ := bind_ok h
    cases hend
    exact .inr ⟨p, p', rfl, rfl, hon⟩

lemma aura_switchOn_error {aura : Aura} {slot : Slot} {b b' : Board} {fault : Fault}
    (h : aura.switchOn slot b = .error fault b') : Shifted b b' fun _ _ => 0 := by
  cases aura with
  | minions m =>
    cases hon : m.switchOn slot b with
    | ok m' b₁ => simp [Aura.switchOn, hon] at h
    | error fault' b₁ =>
      simp only [Aura.switchOn, bind_run, hon, EStateM.Result.error.injEq] at h
      obtain ⟨-, rfl⟩ := h
      exact minions_switchOn_error hon
  | player p =>
    cases hon : p.switchOn slot b with
    | ok p' b₁ => simp [Aura.switchOn, hon] at h
    | error fault' b₁ =>
      simp only [Aura.switchOn, bind_run, hon, EStateM.Result.error.injEq] at h
      obtain ⟨-, rfl⟩ := h
      exact player_switchOn_error hon

lemma outline_switchOn {aura aura' : Aura} {slot : Slot} {b b' : Board}
    (h : aura.switchOn slot b = .ok aura' b') : outline b' = outline b := by
  rcases aura_switchOn_ok h with ⟨m, m', -, -, hm⟩ | ⟨p, p', -, -, hp⟩
  · obtain ⟨matched, -, -, hshift⟩ := minions_switchOn_ok hm
    exact hshift.outline_eq
  · obtain ⟨b₁, surface, c, hshift, -, -, -, rfl⟩ := player_switchOn_ok hp
    exact (outline_eq_of_standing (standing_subscribed _ _ _ _)).trans hshift.outline_eq

lemma addAura_ok {holder : PlayerId} {owner : EntityId} {aura : Aura} {id : AuraId} {b b' : Board}
    (h : Board.addAura holder owner aura b = .ok id b') :
    id = ⟨b.nextAura⟩ ∧ b.contains owner = true ∧ ∃ aura' b₁,
      aura.switchOn (nextSlot b holder owner) (numbered b) = .ok aura' b₁ ∧
      b' = registered b₁ (nextSlot b holder owner) aura' := by
  rw [addAura_run] at h
  split at h
  · cases h
  · split at h
    · cases h
    · next howner =>
      cases hon : aura.switchOn (nextSlot b holder owner) (numbered b) with
      | error fault b₁ => simp [hon] at h
      | ok aura' b₁ =>
        simp only [hon, EStateM.Result.ok.injEq] at h
        exact ⟨h.1.symm, by simpa using howner, aura', b₁, rfl, h.2.symm⟩

/-- An aura that is not added leaves no trace but the number it has used up. -/
lemma addAura_error {holder : PlayerId} {owner : EntityId} {aura : Aura} {fault : Fault}
    {b b' : Board} (h : Board.addAura holder owner aura b = .error fault b') :
    b' = b ∨ Shifted (numbered b) b' fun _ _ => 0 := by
  rw [addAura_run] at h
  split at h
  · cases h
    exact .inl rfl
  · split at h
    · cases h
      exact .inl rfl
    · cases hon : aura.switchOn (nextSlot b holder owner) (numbered b) with
      | ok aura' b₁ => simp [hon] at h
      | error fault' b₁ =>
        simp only [hon, EStateM.Result.error.injEq] at h
        rw [← h.2]
        exact .inr (aura_switchOn_error hon)

lemma removeAuras_cons_ok {id : AuraId} {ids : List AuraId} {b b' : Board}
    (h : Board.removeAuras (id :: ids) b = .ok () b') :
    ∃ b₁, Board.removeAura id b = .ok () b₁ ∧ Board.removeAuras ids b₁ = .ok () b' := by
  obtain ⟨_, b₁, hfirst, hrest⟩ := bind_ok h
  exact ⟨b₁, hfirst, hrest⟩

lemma auras_removeAuras {ids : List AuraId} {b b' : Board}
    (h : Board.removeAuras ids b = .ok () b') : b'.auras = b.auras.filter fun e => e.1 ∉ ids := by
  induction ids generalizing b with
  | nil =>
    cases h
    exact (List.filter_eq_self.mpr fun e _ => by simp).symm
  | cons id ids ih =>
    obtain ⟨b₁, hremove, hrest⟩ := removeAuras_cons_ok h
    have hfirst := congrArg Outline.auras (outline_removeAura id b)
    rw [leftBy_of_ok hremove] at hfirst
    have hauras : b₁.auras = Table.erase b.auras id := hfirst
    rw [ih hrest, hauras, Table.erase, List.filter_filter]
    apply List.filter_congr
    intro e _
    simp [Bool.and_comm]

lemma aurasOwnedBy_removeAuras {owner : EntityId} {b b' : Board}
    (h : Board.removeAuras (b.aurasOwnedBy owner) b = .ok () b') : b'.aurasOwnedBy owner = [] := by
  have hauras := auras_removeAuras h
  have hnone : b'.auras.filter (·.2.slot.owner = owner) = [] := by
    rw [hauras, List.filter_filter, List.filter_eq_nil_iff]
    intro e he hboth
    simp only [Bool.and_eq_true, decide_eq_true_eq] at hboth
    apply hboth.2
    unfold Board.aurasOwnedBy
    rw [List.mem_mergeSort]
    exact List.mem_map_of_mem (List.mem_filter.mpr ⟨he, by simpa using hboth.1⟩)
  unfold Board.aurasOwnedBy
  rw [hnone]
  simp

lemma refreshAura_ok {id : AuraId} {b b' : Board} (h : Board.refreshAura id b = .ok () b') :
    b' = b ∨ ∃ slot aura b₁ matched b₂,
      Table.get? b.auras id = some { slot, aura := .minions aura } ∧
      aura.switchOff b = .ok () b₁ ∧ bare b₁ = bare b ∧
      aura.matched b₁ slot.owner = .ok matched ∧
      Shifted b₁ b₂ (onTargets matched (delta aura.change)) ∧
      b' = replaced b₂ id (.minions { aura with active := some (slot, matched) }) := by
  rw [refreshAura_run] at h
  split at h
  · next slot aura hget =>
    cases hoff : aura.switchOff b with
    | error fault b₁ => simp [hoff] at h
    | ok _ b₁ =>
      cases hon : aura.off.switchOn slot b₁ with
      | error fault b₂ => simp [hoff, hon] at h
      | ok aura' b₂ =>
        obtain ⟨matched, hmatched, rfl, hshift⟩ := minions_switchOn_ok hon
        have hbare := minions_switchOff_bare aura b
        rw [leftBy_of_ok hoff] at hbare
        simp only [hoff, hon, EStateM.Result.ok.injEq, true_and] at h
        exact .inr ⟨slot, aura, b₁, matched, b₂, hget, hoff, hbare, hmatched, hshift, h.symm⟩
  · cases h
    exact .inl rfl

/-- A refresh that fails leaves the aura registered but off. -/
lemma refreshAura_error {id : AuraId} {b b' : Board} {fault : Fault}
    (h : Board.refreshAura id b = .error fault b') :
    ∃ slot aura b₁, Table.get? b.auras id = some { slot, aura := .minions aura } ∧
      bare b₁ = bare b ∧ b' = replaced b₁ id (.minions aura.off) := by
  rw [refreshAura_run] at h
  split at h
  · next slot aura hget =>
    have hbare := minions_switchOff_bare aura b
    cases hoff : aura.switchOff b with
    | error fault b₁ =>
      simp only [hoff, EStateM.Result.error.injEq] at h
      rw [leftBy_of_error hoff] at hbare
      exact ⟨slot, aura, b₁, hget, hbare, h.2.symm⟩
    | ok _ b₁ =>
      rw [leftBy_of_ok hoff] at hbare
      cases hon : aura.off.switchOn slot b₁ with
      | ok aura' b₂ => simp [hoff, hon] at h
      | error fault b₂ =>
        simp only [hoff, hon, EStateM.Result.error.injEq] at h
        exact ⟨slot, aura, b₂, hget, (minions_switchOn_error hon).bare_eq.trans hbare, h.2.symm⟩
  · cases h

end CardEffects.Proofs
