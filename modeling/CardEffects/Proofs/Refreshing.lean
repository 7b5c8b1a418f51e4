import CardEffects.Proofs.AuraHoldings
import CardEffects.Proofs.AuraRemoval
import CardEffects.Proofs.QuietChanges
import CardEffects.Proofs.Scopes

/-!
# Refreshing

A refresh takes the registered auras one after another, player by player and oldest first. In its
turn a minion aura goes from those it leaves to those it picks then; nothing else changes, and every
aura that is registered has one turn.
-/

namespace CardEffects.Proofs

/-- The registered auras in the order in which they are refreshed. -/
def refreshOrder (b : Board) : List AuraId :=
  (holdings b).flatten

lemma refreshAuras_run (b : Board) :
    Board.refreshAuras b = Board.refreshEach (refreshOrder b) b := by
  simp [Board.refreshAuras, refreshOrder, holdings, List.flatMap_def]

lemma mem_refreshOrder {b : Board} (h : HoldingsFit b) (id : AuraId) :
    id ∈ refreshOrder b ↔ ∃ active, Table.get? b.auras id = some active := by
  have hregistered := h.isAuraActive_iff id
  simp only [Board.isAuraActive, Table.contains, Option.isSome_iff_exists] at hregistered
  rw [hregistered]
  unfold refreshOrder
  simp only [List.mem_flatten, aurasOf_eq]
  constructor
  · rintro ⟨held, hheld, hid⟩
    obtain ⟨i, hi⟩ := List.mem_iff_getElem?.mp hheld
    exact ⟨⟨i⟩, by simpa [hi] using hid⟩
  · rintro ⟨player, hid⟩
    cases hheld : (holdings b)[player.index]? with
    | none => simp [hheld] at hid
    | some held => exact ⟨held, List.mem_of_getElem? hheld, by simpa [hheld] using hid⟩

lemma nodup_refreshOrder {b : Board} (h : HoldingsFit b) : (refreshOrder b).Nodup := by
  have hheld : ∀ i (hi : i < (holdings b).length), b.aurasOf ⟨i⟩ = (holdings b)[i] := by
    intro i hi
    rw [aurasOf_eq, List.getElem?_eq_getElem hi]
    rfl
  refine List.nodup_flatten.mpr ⟨fun held hmem => ?_, ?_⟩
  · obtain ⟨i, hi, rfl⟩ := List.getElem_of_mem hmem
    rw [← hheld i hi]
    exact (h.ordered ⟨i⟩).imp fun hlt hsame => (hsame ▸ hlt).false
  · apply List.pairwise_iff_getElem.mpr
    intro i j hi hj hij id hmem hmem'
    rw [← hheld, h.held] at hmem hmem'
    rw [hmem] at hmem'
    exact absurd (PlayerId.mk.inj (Option.some.inj hmem')) hij.ne

/-! ### One turn -/

lemma takenFrom_snapshot {aura : MinionAura} (h : aura.removal = .snapshot) (b : Board) :
    takenFrom b aura = aura.affected.filter b.isMinion := by
  unfold takenFrom MinionAura.affected MinionAura.leaving
  rw [h]
  cases aura.active <;> rfl

lemma affected_of_active {aura : MinionAura} {slot : Slot} {affected : List EntityId}
    (hactive : aura.active = some (slot, affected)) : aura.affected = affected := by
  simp [MinionAura.affected, hactive]

/-- The levels of all stats once the change of an aura is taken back. -/
def levelWithout (b : Board) (aura : MinionAura) : EntityId → String → Int :=
  changed (level b) (takenFrom b aura) fun key => -delta aura.change key

/-- Whom an aura picks once its change is taken back. -/
def pickedAnew (b : Board) (aura : MinionAura) (owner : EntityId) (covered : List EntityId) :
    List EntityId :=
  pick aura.selector (levelWithout b aura) owner covered

/-- The entry of a minion aura that is on some minions for its slot. -/
def entryOn (slot : Slot) (aura : MinionAura) (affected : List EntityId) : ActiveAura :=
  { slot, aura := .minions { aura with active := some (slot, affected) } }

/-- One board comes from another by the turn of one minion aura, which is on `matched` then. -/
structure Turn (b b' : Board) (id : AuraId) (slot : Slot) (aura : MinionAura)
    (matched : List EntityId) : Prop where
  seating_eq : seating b' = seating b
  level_eq : ∀ entity key, level b' entity key = level b entity key -
    (if entity ∈ takenFrom b aura then delta aura.change key else 0) +
      if entity ∈ matched then delta aura.change key else 0
  get?_eq : ∀ other, Table.get? b'.auras other =
    if id = other then some (entryOn slot aura matched) else Table.get? b.auras other

lemma switchOff_taken {b b₁ : Board} (hwell : WellFormed (outline b)) {id : AuraId} {slot : Slot}
    {aura : MinionAura} (hget : Table.get? b.auras id = some { slot, aura := .minions aura })
    (hrun : aura.switchOff b = .ok () b₁) :
    (∃ affected, aura.active = some (slot, affected)) ∧ (takenFrom b aura).Nodup ∧
      Shifted b b₁ (onTargets (takenFrom b aura) fun key => -delta aura.change key) := by
  rw [minions_switchOff_run] at hrun
  cases hactive : aura.active with
  | none => simp [hactive] at hrun
  | some active =>
    obtain ⟨slot', affected⟩ := active
    obtain ⟨rfl, hnodup, -⟩ := (hwell.fits id _ hget).minions aura slot' affected rfl hactive
    obtain ⟨targets, hleaving, hdistinct⟩ := leaving_facts hwell aura slot'.owner hnodup
    simp only [hactive, hleaving] at hrun
    rw [takenFrom_of_leaving hactive hleaving]
    rcases undoOnMinions_outcome aura.change targets b with
      ⟨b₂, hok, hshift⟩ | ⟨_, _, _, _, b₂, -, herror, -, -⟩
    · rw [hok] at hrun
      cases hrun
      exact ⟨⟨affected, rfl⟩, hdistinct.filter _, hshift⟩
    · rw [herror] at hrun
      cases hrun

/-- A minion aura that is refreshed was on for its slot, and picks anew among those it covers. -/
lemma refreshAura_turn {b b' : Board} (hwell : WellFormed (outline b)) {id : AuraId} {slot : Slot}
    {aura : MinionAura} (hget : Table.get? b.auras id = some { slot, aura := .minions aura })
    (hrun : Board.refreshAura id b = .ok () b') :
    (∃ affected, aura.active = some (slot, affected)) ∧
    ∃ covered, aura.players.minions b slot.owner = .ok covered ∧
      Turn b b' id slot aura (pickedAnew b aura slot.owner covered) := by
  rw [refreshAura_run] at hrun
  simp only [hget] at hrun
  cases hoff : aura.switchOff b with
  | error fault b₁ => simp [hoff] at hrun
  | ok _ b₁ =>
    cases hon : aura.off.switchOn slot b₁ with
    | error fault b₂ => simp [hoff, hon] at hrun
    | ok aura' b₂ =>
      simp only [hoff, hon, EStateM.Result.ok.injEq, true_and] at hrun
      obtain ⟨hactive, hdistinct, htaken⟩ := switchOff_taken hwell hget hoff
      obtain ⟨matched, hmatched, rfl, hmade⟩ := minions_switchOn_ok hon
      have hwell₁ : WellFormed (outline b₁) := by rwa [htaken.outline_eq]
      obtain ⟨covered, hcovered, hpicked⟩ := (matched_eq_ok hwell₁).mp hmatched
      rw [htaken.level_eq_changed hdistinct] at hpicked
      have hseating₁ : seating b₁ = seating b := seating_eq_of_outline htaken.outline_eq
      have houtline : outline b₂ = outline b := hmade.outline_eq.trans htaken.outline_eq
      refine ⟨hactive, covered, (minions_eq_of_seating hseating₁ _ _).symm.trans hcovered, ?_⟩
      have hpicked' : matched = pickedAnew b aura slot.owner covered := hpicked
      rw [← hpicked', ← hrun]
      refine ⟨(seating_eq_of_outline houtline : seating b₂ = seating b), fun entity key => ?_,
        fun other => ?_⟩
      · have hnodup := (matched_facts hwell₁ hmatched).1
        refine (hmade.level_eq entity key).trans ?_
        rw [htaken.level_eq, onTargets_of_nodup hdistinct, onTargets_of_nodup hnodup]
        simp only [sub_eq_add_neg, neg_ite, neg_zero]
        rfl
      · unfold replaced
        rw [auras_eq_of_outline houtline]
        by_cases hid : id = other
        · subst hid
          rw [Table.get?_modify_self, hget, if_pos rfl]
          rfl
        · rw [Table.get?_modify_of_ne _ _ hid, if_neg hid]

lemma refreshAura_idle {b : Board} {id : AuraId}
    (h : ∀ slot aura, Table.get? b.auras id ≠ some { slot, aura := .minions aura }) :
    Board.refreshAura id b = .ok () b := by
  rw [refreshAura_run]
  split
  · next slot aura hget => exact absurd hget (h slot aura)
  · rfl

lemma inScope_of_mem_takenFrom {b : Board} (hfit : ScopesFit b) {id : AuraId} {slot : Slot}
    {aura : MinionAura} (hget : Table.get? b.auras id = some { slot, aura := .minions aura })
    {e : EntityId} (he : e ∈ takenFrom b aura) :
    b.isMinion e = true ∧ InScope b aura slot.owner e := by
  cases hactive : aura.active with
  | none => simp [takenFrom, hactive] at he
  | some active =>
    obtain ⟨slot', affected⟩ := active
    obtain ⟨rfl, hnodup, -⟩ :=
      (hfit.wellFormed.fits id _ hget).minions aura slot' affected rfl hactive
    obtain ⟨targets, hleaving, -⟩ := leaving_facts hfit.wellFormed aura slot'.owner hnodup
    rw [takenFrom_of_leaving hactive hleaving, List.mem_filter] at he
    have hscope : e ∈ affected → InScope b aura slot'.owner e := fun hmem =>
      hfit.inScope id slot' aura hget e (mem_affected.mpr ⟨slot', affected, hactive, hmem⟩) he.2
    refine ⟨he.2, ?_⟩
    unfold MinionAura.leaving at hleaving
    split at hleaving
    · cases hleaving
      exact hscope he.1
    · split at hleaving
      · exact inScope_of_mem_matched hfit.wellFormed hleaving he.1
      · cases hleaving
        exact hscope he.1

lemma Turn.was {b b' : Board} {id : AuraId} {slot : Slot} {aura : MinionAura}
    {matched : List EntityId} (h : Turn b b' id slot aura matched)
    (hget : Table.get? b.auras id = some { slot, aura := .minions aura }) {other : AuraId}
    {slot' : Slot} {aura' : MinionAura}
    (hget' : Table.get? b'.auras other = some { slot := slot', aura := .minions aura' }) :
    ∃ active, Table.get? b.auras other =
      some { slot := slot', aura := .minions { aura' with active } } := by
  rw [h.get?_eq] at hget'
  split at hget'
  · next hid =>
    subst hid
    obtain ⟨rfl, rfl⟩ := minionAura_unique rfl hget'
    exact ⟨aura.active, hget⟩
  · exact ⟨aura'.active, hget'⟩

lemma Turn.level_eq_of_not_inScope {b b' : Board} (hfit : ScopesFit b) {id : AuraId} {slot : Slot}
    {aura : MinionAura} (hget : Table.get? b.auras id = some { slot, aura := .minions aura })
    {covered : List EntityId} (hcovered : aura.players.minions b slot.owner = .ok covered)
    (h : Turn b b' id slot aura (pickedAnew b aura slot.owner covered)) {e : EntityId}
    (hout : ¬(b.isMinion e = true ∧ InScope b aura slot.owner e)) (key : String) :
    level b' e key = level b e key := by
  have hleft : e ∉ takenFrom b aura := fun he => hout (inScope_of_mem_takenFrom hfit hget he)
  have hpicked : e ∉ pickedAnew b aura slot.owner covered := fun he =>
    hout (inScope_of_mem_pick hfit.wellFormed hcovered he)
  rw [h.level_eq, if_neg hleft, if_neg hpicked, sub_zero, add_zero]

/-! ### A pass -/

/-- A pass over auras that succeeds: each minion aura has its turn on what those before it left. -/
inductive Turns : List AuraId → Board → Board → Prop where
  | done (b : Board) : Turns [] b b
  | idle {id : AuraId} {ids : List AuraId} {b b' : Board}
    (hother : ∀ slot aura, Table.get? b.auras id ≠ some { slot, aura := .minions aura })
    (hrest : Turns ids b b') : Turns (id :: ids) b b'
  | next {id : AuraId} {ids : List AuraId} {b b₁ b' : Board} {slot : Slot} {aura : MinionAura}
    {affected covered : List EntityId} (hfit : ScopesFit b)
    (hget : Table.get? b.auras id = some { slot, aura := .minions aura })
    (hactive : aura.active = some (slot, affected))
    (hcovered : aura.players.minions b slot.owner = .ok covered)
    (hturn : Turn b b₁ id slot aura (pickedAnew b aura slot.owner covered))
    (hrest : Turns ids b₁ b') : Turns (id :: ids) b b'

lemma turns_of_refreshEach {ids : List AuraId} {b b' : Board} (hfit : ScopesFit b)
    (hrun : Board.refreshEach ids b = .ok () b') : Turns ids b b' := by
  induction ids generalizing b with
  | nil =>
    cases hrun
    exact .done _
  | cons id ids ih =>
    unfold Board.refreshEach at hrun
    obtain ⟨⟨⟩, b₁, hfirst, hrest⟩ := bind_ok hrun
    by_cases hother : ∀ slot aura, Table.get? b.auras id ≠ some { slot, aura := .minions aura }
    · rw [refreshAura_idle hother] at hfirst
      cases hfirst
      exact .idle hother (ih hfit hrest)
    · push Not at hother
      obtain ⟨slot, aura, hget⟩ := hother
      obtain ⟨⟨affected, hactive⟩, covered, hcovered, hturn⟩ :=
        refreshAura_turn hfit.wellFormed hget hfirst
      have hdev := (quiet_refreshAura id b).develops
      rw [leftBy_of_ok hfirst] at hdev
      exact .next hfit hget hactive hcovered hturn (ih (hfit.develops hdev) hrest)

namespace Turns

variable {ids : List AuraId} {b b' : Board}

lemma seating_eq (h : Turns ids b b') : seating b' = seating b := by
  induction h with
  | done b => rfl
  | idle hother hrest ih => exact ih
  | next hfit hget hactive hcovered hturn hrest ih => exact ih.trans hturn.seating_eq

lemma get?_eq_of_not_mem (h : Turns ids b b') {id : AuraId} (hid : id ∉ ids) :
    Table.get? b'.auras id = Table.get? b.auras id := by
  induction h with
  | done b => rfl
  | idle hother hrest ih => exact ih (List.not_mem_of_not_mem_cons hid)
  | next hfit hget hactive hcovered hturn hrest ih =>
    rw [ih (List.not_mem_of_not_mem_cons hid), hturn.get?_eq,
      if_neg (List.ne_of_not_mem_cons hid).symm]

/-- Each minion aura ends on whom it picks anew on some board with the same seating. -/
lemma has_turn (h : Turns ids b b') (hnodup : ids.Nodup) {id : AuraId} (hid : id ∈ ids)
    {slot : Slot} {aura : MinionAura}
    (hget : Table.get? b.auras id = some { slot, aura := .minions aura }) :
    ∃ c covered, seating c = seating b ∧ aura.players.minions c slot.owner = .ok covered ∧
      Table.get? b'.auras id =
        some (entryOn slot aura (pickedAnew c aura slot.owner covered)) := by
  induction h with
  | done b => simp at hid
  | @idle first ids b b' hother hrest ih =>
    have hne : id ≠ first := by
      rintro rfl
      exact hother slot aura hget
    exact ih (List.nodup_cons.mp hnodup).2 (List.mem_of_ne_of_mem hne hid) hget
  | @next first ids b b₁ b' slot' aura' affected covered hfit hfirst hactive hcovered hturn
      hrest ih =>
    obtain ⟨hnot, hrestNodup⟩ := List.nodup_cons.mp hnodup
    -- An aura has a single turn, so the turns after it leave its entry alone.
    by_cases hid' : id = first
    · subst hid'
      obtain ⟨rfl, rfl⟩ := minionAura_unique hget hfirst
      refine ⟨b, covered, rfl, hcovered, ?_⟩
      rw [hrest.get?_eq_of_not_mem hnot, hturn.get?_eq, if_pos rfl]
    · have hget₁ : Table.get? b₁.auras id = some { slot, aura := .minions aura } := by
        rw [hturn.get?_eq, if_neg (Ne.symm hid'), hget]
      obtain ⟨c, covered', hseating, hrest'⟩ :=
        ih hrestNodup (List.mem_of_ne_of_mem hid' hid) hget₁
      exact ⟨c, covered', hseating.trans hturn.seating_eq, hrest'⟩

lemma level_eq_of_not_inScope (h : Turns ids b b') {e : EntityId}
    (hout : ∀ id slot aura, Table.get? b.auras id = some { slot, aura := .minions aura } →
      ¬(b.isMinion e = true ∧ InScope b aura slot.owner e)) (key : String) :
    level b' e key = level b e key := by
  induction h with
  | done b => rfl
  | idle hother hrest ih => exact ih hout
  | @next first ids b b₁ b' slot aura affected covered hfit hget hactive hcovered hturn hrest ih =>
    rw [← hturn.level_eq_of_not_inScope hfit hget hcovered (hout first slot aura hget)]
    -- The turn changes neither the seating nor whom an aura covers, so the scopes stay.
    refine ih fun id slot' aura' hget' => ?_
    obtain ⟨active, hget₀⟩ := hturn.was hget hget'
    rw [isMinion_eq_of_seating hturn.seating_eq]
    rintro ⟨hminion, hscope⟩
    exact hout id slot' _ hget₀ ⟨hminion, hscope.of_seating hturn.seating_eq.symm⟩

end Turns

end CardEffects.Proofs
