import CardEffects.Proofs.AuraAccounting
import CardEffects.Proofs.Balances

/-!
# Lapses

What removing player auras one after another comes to: their subscriptions go, their owners lose
their shares, and everything else stays.
-/

namespace CardEffects.Proofs

/-- The number of the subscription to the ending of an aura. -/
def ending? (b : Board) (id : AuraId) : Option ListenerId :=
  (keeping? b (.aura id)).bind fun k => k.binding.map (·.listener)

/-- What a registered aura adds to a stat. -/
def share (b : Board) (entity : EntityId) (key : String) (id : AuraId) : Int :=
  ((Table.get? b.auras id).map fun active => grant active entity key).getD 0

/-- One board comes from another by the removal of player auras. -/
structure Lapsed (b b' : Board) (ids : List AuraId) : Prop where
  keepersFit : KeepersFit b'
  seating_eq : seating b' = seating b
  auras_eq : b'.auras = b.auras.filter fun entry => entry.1 ∉ ids
  effects_eq : effectsOf b' = effectsOf b
  freed : Freed b b' (ids.filterMap (ending? b))
  level_eq : ∀ entity key,
    level b' entity key = level b entity key - (ids.map (share b entity key)).sum

section Lapsed

variable {b b' b'' : Board} {ids ids' : List AuraId}

lemma KeepersFit.lapsed_self (h : KeepersFit b) : Lapsed b b [] where
  keepersFit := h
  seating_eq := rfl
  auras_eq := by simp
  effects_eq := rfl
  freed := .of_listening rfl
  level_eq _ _ := by simp

lemma Lapsed.get?_eq (h : Lapsed b b' ids) (id : AuraId) :
    Table.get? b'.auras id = if id ∈ ids then none else Table.get? b.auras id := by
  rw [h.auras_eq, get?_filter_keys b.auras (fun id => id ∉ ids) id]
  by_cases hmem : id ∈ ids <;> simp [hmem]

lemma Lapsed.keeping_iff (h : Lapsed b b' ids) (keeper : Keeper) (k : Keeping) :
    keeping? b' keeper = some k ↔
      keeping? b keeper = some k ∧ ∀ id ∈ ids, keeper ≠ .aura id := by
  cases keeper with
  | effect owner index =>
    simp [keeping?, h.effects_eq]
  | aura id =>
    have haura : playerAura? b' id = if id ∈ ids then none else playerAura? b id := by
      unfold playerAura?
      rw [h.get?_eq]
      split <;> rfl
    simp only [keeping?, haura]
    by_cases hmem : id ∈ ids
    · simp [hmem]
    · rw [if_neg hmem]
      refine ⟨fun hk => ⟨hk, fun other hother hsame => hmem ?_⟩, And.left⟩
      rwa [Keeper.aura.inj hsame]

lemma Lapsed.keptAt (h : Lapsed b b' ids) (hfit : KeepersFit b) {keeper : Keeper}
    {surface : EntityId} {event : String} {id : ListenerId} {listener : Listener}
    (hkept : KeptAt b keeper surface event id listener)
    (hother : ∀ aura ∈ ids, keeper ≠ .aura aura) :
    KeptAt b' keeper surface event id listener :=
  hkept.steady (steady_of_seating h.seating_eq) hfit.wellFormed h.keepersFit.wellFormed
    fun k hk => (h.keeping_iff keeper k).mpr ⟨hk, hother⟩

lemma Lapsed.ending?_eq (h : Lapsed b b' ids) {id : AuraId} (hid : id ∉ ids) :
    ending? b' id = ending? b id := by
  have hkeeping : keeping? b' (.aura id) = keeping? b (.aura id) := by
    refine Option.ext fun k => (h.keeping_iff (.aura id) k).trans (and_iff_left ?_)
    rintro other hother hsame
    exact hid (Keeper.aura.inj hsame ▸ hother)
  unfold ending?
  rw [hkeeping]

lemma Lapsed.share_eq (h : Lapsed b b' ids) {id : AuraId} (hid : id ∉ ids) (entity : EntityId)
    (key : String) : share b' entity key id = share b entity key id := by
  unfold share
  rw [h.get?_eq, if_neg hid]

lemma Lapsed.trans (h : Lapsed b b' ids) (h' : Lapsed b' b'' ids')
    (hapart : ∀ id ∈ ids', id ∉ ids) :
    Lapsed b b'' (ids ++ ids') where
  keepersFit := h'.keepersFit
  seating_eq := h'.seating_eq.trans h.seating_eq
  auras_eq := by
    rw [h'.auras_eq, h.auras_eq, List.filter_filter]
    refine List.filter_congr fun entry _ => ?_
    simp [Bool.and_comm]
  effects_eq := h'.effects_eq.trans h.effects_eq
  freed := by
    rw [List.filterMap_append, ← List.filterMap_congr fun id hid => h.ending?_eq (hapart id hid)]
    exact h.freed.trans h'.freed
  level_eq entity key := by
    have hshares : ids'.map (share b' entity key) = ids'.map (share b entity key) :=
      List.map_congr_left fun id hid => h.share_eq (hapart id hid) entity key
    rw [h'.level_eq, h.level_eq, hshares, List.map_append, List.sum_append]
    ring

/-- A player aura whose removal succeeds lapses. -/
lemma KeepersFit.lapsed (h : KeepersFit b) {id : AuraId} {slot : Slot} {aura : PlayerAura}
    (hget : playerAura? b id = some (slot, aura)) (hrun : Board.removeAura id b = .ok () b') :
    Lapsed b b' [id] := by
  have hregistered := playerAura?_eq_some.mp hget
  have hremoved := removed h id
  have hfits := h.act (h.outcome (.removeAura id))
  have hseating := seating_step (.removeAura id) trivial b
  have houtline := outline_removeAura id b
  rw [Move.run, leftBy_of_ok hrun] at hseating
  rw [Act.run, leftBy_of_ok hrun] at hfits
  rw [leftBy_of_ok hrun] at hremoved houtline
  obtain ⟨binding, hbinding, hfreed⟩ := freed_of_removeAura h hget hrun
  have hending : ending? b id = some binding.listener := by simp [ending?, keeping?, hget, hbinding]
  refine ⟨hfits, hseating, ?_, congrArg Prod.fst hremoved.upkeep_eq, ?_, fun entity key => ?_⟩
  · have hauras : b'.auras = Table.erase b.auras id := congrArg Outline.auras houtline
    rw [hauras]
    unfold Table.erase
    simp
  · simpa [hending] using hfreed
  · have hshare : share b entity key id = grant ⟨slot, .player aura⟩ entity key := by
      simp [share, hregistered]
    have hoff : AuraFits (outline (deregistered b id slot.holder)) id ⟨slot, .player aura⟩ := by
      rw [outline_deregistered]
      exact (h.wellFormed.fits id _ hregistered).mono rfl (fun hplay => hplay) le_rfl le_rfl
    rw [removeAura_run] at hrun
    simp only [hregistered] at hrun
    have hlevel := player_switchOff_level hoff hrun entity key
    rw [level_eq_of_character? (character?_deregistered b id slot.holder)] at hlevel
    rw [hlevel, List.map_singleton, List.sum_singleton, hshare]

end Lapsed

end CardEffects.Proofs
