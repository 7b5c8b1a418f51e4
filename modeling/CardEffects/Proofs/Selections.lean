import CardEffects.Proofs.Keepers
import Mathlib.Data.Finset.Max

/-!
# Selections

A selector reads one number of each candidate and compares it with a bound or with what it reads of
the others. What it reads is additive in the stats, so the effect of a stat change on a selection is
that of adding a fixed number to what is read of some candidates.
-/

namespace CardEffects.Proofs

/-- What a selector reads of the stats of a candidate. -/
def reading (selector : Selector) (stats : String → Int) : Int :=
  match selector with
  | .minion | .notSelf => 0
  | .damaged => stats Stat.health - stats Stat.maxHealth
  | .hasTaunt => stats Stat.taunt
  | .hasLowestHealth => stats Stat.health
  | .attackAtLeast _ => stats Stat.attack

/-- Whether a selector accepts a candidate, from what it reads of it and of all candidates. -/
def accepts (selector : Selector) (source candidate : EntityId) (all : List Int) (own : Int) :
    Bool :=
  match selector with
  | .minion => true
  | .notSelf => candidate ≠ source
  | .damaged => own < 0
  | .hasTaunt => 0 < own
  | .hasLowestHealth => all.all (own ≤ ·)
  | .attackAtLeast min => min.val ≤ own

/-- The candidates that a selector picks when each has the given stats. -/
def pick (selector : Selector) (stats : EntityId → String → Int) (source : EntityId)
    (candidates : List EntityId) : List EntityId :=
  candidates.filter fun candidate =>
    accepts selector source candidate (candidates.map fun other => reading selector (stats other))
      (reading selector (stats candidate))

/-! ### Readings -/

lemma reading_add (selector : Selector) (stats added : String → Int) :
    reading selector (fun key => stats key + added key) =
      reading selector stats + reading selector added := by
  cases selector <;> simp only [reading, add_zero]
  ring

lemma reading_neg (selector : Selector) (stats : String → Int) :
    reading selector (fun key => -stats key) = -reading selector stats := by
  cases selector <;> simp only [reading, neg_zero]
  ring

lemma reading_zero (selector : Selector) : reading selector (fun _ => 0) = 0 := by
  cases selector <;> simp [reading]

lemma reading_grant (selector : Selector) (stats added : String → Int) (p : Prop) [Decidable p] :
    reading selector (fun key => stats key + if p then added key else 0) =
      reading selector stats + if p then reading selector added else 0 := by
  rw [reading_add]
  split
  · rfl
  · rw [reading_zero]

/-! ### Picking -/

section Pick

variable (selector : Selector) (stats : EntityId → String → Int) (source : EntityId)
  (candidates : List EntityId)

lemma mem_pick {e : EntityId} :
    e ∈ pick selector stats source candidates ↔
      e ∈ candidates ∧ accepts selector source e
        (candidates.map fun other => reading selector (stats other))
        (reading selector (stats e)) = true :=
  List.mem_filter

lemma pick_minion : pick .minion stats source candidates = candidates :=
  List.filter_eq_self.mpr fun _ _ => rfl

lemma pick_notSelf :
    pick .notSelf stats source candidates = candidates.filter (· ≠ source) := rfl

lemma accepts_lowest {e : EntityId} {all : List Int} {own : Int} :
    accepts .hasLowestHealth source e all own = true ↔ ∀ other ∈ all, own ≤ other := by
  simp [accepts]

lemma mem_pick_lowest {e : EntityId} :
    e ∈ pick .hasLowestHealth stats source candidates ↔
      e ∈ candidates ∧ ∀ other ∈ candidates, stats e Stat.health ≤ stats other Stat.health := by
  rw [mem_pick, accepts_lowest]
  exact and_congr_right fun _ => List.forall_mem_map

lemma exists_mem_pick_lowest {e : EntityId} (h : e ∈ candidates) :
    ∃ least, least ∈ pick .hasLowestHealth stats source candidates := by
  obtain ⟨least, hmem, hleast⟩ := Finset.exists_min_image candidates.toFinset
    (fun other => stats other Stat.health) ⟨e, List.mem_toFinset.mpr h⟩
  refine ⟨least, (mem_pick_lowest ..).mpr ⟨List.mem_toFinset.mp hmem, fun other hother => ?_⟩⟩
  exact hleast other (List.mem_toFinset.mpr hother)

lemma pick_congr {stats' : EntityId → String → Int}
    (h : ∀ e ∈ candidates, reading selector (stats' e) = reading selector (stats e)) :
    pick selector stats' source candidates = pick selector stats source candidates := by
  unfold pick
  rw [List.map_congr_left h]
  exact List.filter_congr fun e he => by rw [h e he]

end Pick

/-! ### Selections on boards -/

lemma character?_of_minion? {b : Board} (h : WellFormed (outline b)) {e : EntityId}
    {minion : Minion} (hminion : b.minion? e = some minion) :
    b.character? e = some minion.body := by
  have hnumber := playerCount_le_of_minion? h hminion
  simp [Board.character?, Board.seat?, not_lt.mpr hnumber, hminion]

lemma select_lowest_eq_filter (b : Board) (source : EntityId) {candidates : List EntityId}
    {health : EntityId → Int}
    (h : ∀ e ∈ candidates, ∃ minion, b.minion? e = some minion ∧
      (minion.body.stat Stat.health).val = health e) :
    Selector.select .hasLowestHealth b source candidates =
      candidates.filter fun e => candidates.all (health e ≤ health ·) := by
  have hhealths : Selector.healths b candidates = candidates.map health := by
    unfold Selector.healths
    rw [← List.filterMap_eq_map]
    refine List.filterMap_congr fun e he => ?_
    obtain ⟨minion, hminion, hhealth⟩ := h e he
    simp [hminion, hhealth]
  simp only [Selector.select, hhealths]
  cases hmin : (candidates.map health).min? with
  | none =>
    rw [List.min?_eq_none_iff, List.map_eq_nil_iff] at hmin
    subst hmin
    rfl
  | some lowest =>
    obtain ⟨hmem, hleast⟩ := List.min?_eq_some_iff.mp hmin
    obtain ⟨least, hcandidate, rfl⟩ := List.mem_map.mp hmem
    refine List.filter_congr fun e he => ?_
    obtain ⟨minion, hminion, hhealth⟩ := h e he
    rw [Bool.eq_iff_iff]
    simp only [hminion, Option.any_some, hhealth, decide_eq_true_eq, List.all_eq_true]
    constructor
    · rintro hlowest other hother
      rw [hlowest]
      exact hleast _ (List.mem_map_of_mem hother)
    · exact fun hall => le_antisymm (hall least hcandidate) (hleast _ (List.mem_map_of_mem he))

lemma select_eq_pick {b : Board} (hwell : WellFormed (outline b)) (selector : Selector)
    (source : EntityId) {candidates : List EntityId}
    (h : ∀ e ∈ candidates, b.isMinion e = true) :
    selector.select b source candidates = pick selector (level b) source candidates := by
  have hstat : ∀ e ∈ candidates, ∃ minion, b.minion? e = some minion ∧
      ∀ key, (minion.body.stat key).val = level b e key := by
    intro e he
    obtain ⟨minion, hminion⟩ := Option.isSome_iff_exists.mp (h e he)
    exact ⟨minion, hminion, fun key =>
      (level_of_character? (character?_of_minion? hwell hminion) key).symm⟩
  have hkeeps : ∀ all, ∀ e ∈ candidates, selector ≠ .hasLowestHealth →
      selector.keeps b source e =
        accepts selector source e all (reading selector (level b e)) := by
    intro all e he hselector
    obtain ⟨minion, hminion, hlevel⟩ := hstat e he
    cases selector with
    | hasLowestHealth => exact absurd rfl hselector
    | minion => simpa [Selector.keeps, accepts] using h e he
    | notSelf => simp [Selector.keeps, accepts, h e he]
    | damaged =>
      simp only [Selector.keeps, hminion, Option.any_some, Character.isDamaged, hlevel, accepts,
        reading, sub_neg]
    | hasTaunt =>
      simp only [Selector.keeps, hminion, Option.any_some, Character.hasTaunt, hlevel, accepts,
        reading]
      rfl
    | attackAtLeast min =>
      simp only [Selector.keeps, hminion, Option.any_some, hlevel, accepts, reading]
      rfl
  cases selector with
  | hasLowestHealth =>
    have hhealth : ∀ e ∈ candidates, ∃ minion, b.minion? e = some minion ∧
        (minion.body.stat Stat.health).val = level b e Stat.health := fun e he => by
      obtain ⟨minion, hminion, hlevel⟩ := hstat e he
      exact ⟨minion, hminion, hlevel Stat.health⟩
    rw [select_lowest_eq_filter b source hhealth]
    simp only [pick, accepts, reading, List.all_map, Function.comp_def]
    rfl
  | _ => exact List.filter_congr fun e he => hkeeps _ e he (by simp)

/-! ### Changes of those who are picked -/

/-- Whether a selector sticks to those it has picked when `added` is added to what it reads of
them. -/
def Confirms (selector : Selector) (added : Int) : Prop :=
  match selector with
  | .minion | .notSelf => True
  | .damaged | .hasLowestHealth => added ≤ 0
  | .hasTaunt | .attackAtLeast _ => 0 ≤ added

/-- Stats with a change made to those on a list. -/
def changed (stats : EntityId → String → Int) (targets : List EntityId) (added : String → Int)
    (entity : EntityId) (key : String) : Int :=
  stats entity key + if entity ∈ targets then added key else 0

lemma reading_changed (selector : Selector) (stats : EntityId → String → Int)
    (targets : List EntityId) (added : String → Int) (e : EntityId) :
    reading selector (changed stats targets added e) =
      reading selector (stats e) + if e ∈ targets then reading selector added else 0 :=
  reading_grant selector (stats e) added (e ∈ targets)

lemma Shifted.level_eq_changed {b b' : Board} {targets : List EntityId} {added : String → Int}
    (h : Shifted b b' (onTargets targets added)) (hnodup : targets.Nodup) :
    level b' = changed (level b) targets added := by
  funext entity key
  rw [h.level_eq, onTargets_of_nodup hnodup]
  rfl

section OwnChange

variable {stats : EntityId → String → Int} {source : EntityId} {candidates : List EntityId}

lemma pick_eq_of_mem_iff {selector selector' : Selector} {stats' : EntityId → String → Int}
    (h : ∀ e ∈ candidates, e ∈ pick selector' stats' source candidates ↔
      e ∈ pick selector stats source candidates) :
    pick selector' stats' source candidates = pick selector stats source candidates := by
  refine List.filter_congr fun e he => ?_
  have hsame := h e he
  rw [mem_pick, mem_pick] at hsame
  rw [Bool.eq_iff_iff]
  simpa [he] using hsame

/-- Those with the lowest health who gain some still have the lowest if they do not overtake
another. -/
lemma pick_lowest_changed_iff {added : String → Int} :
    pick .hasLowestHealth
        (changed stats (pick .hasLowestHealth stats source candidates) added) source candidates =
      pick .hasLowestHealth stats source candidates ↔
    ∀ low ∈ pick .hasLowestHealth stats source candidates, ∀ e ∈ candidates,
      e ∉ pick .hasLowestHealth stats source candidates →
        stats low Stat.health + added Stat.health < stats e Stat.health := by
  generalize hlowest : pick .hasLowestHealth stats source candidates = lowest
  have hmem : ∀ e, e ∈ lowest ↔
      e ∈ candidates ∧ ∀ other ∈ candidates, stats e Stat.health ≤ stats other Stat.health :=
    fun e => hlowest ▸ mem_pick_lowest stats source candidates
  have hin : ∀ e ∈ lowest, changed stats lowest added e Stat.health =
      stats e Stat.health + added Stat.health := fun e he => by simp [changed, he]
  have hout : ∀ e ∉ lowest, changed stats lowest added e Stat.health = stats e Stat.health :=
    fun e he => by simp [changed, he]
  constructor
  · intro hsame low hlow e he hnot
    have hnow : ∀ {e'}, e' ∈ lowest ↔ _ := fun {e'} =>
      (hsame ▸ mem_pick_lowest (changed stats lowest added) source candidates (e := e'))
    have hle := (hnow.mp hlow).2 e he
    rw [hin low hlow, hout e hnot] at hle
    -- One who was just caught up with would have the lowest health now.
    refine lt_of_le_of_ne hle fun heq => hnot (hnow.mpr ⟨he, fun other hother => ?_⟩)
    have hother' := (hnow.mp hlow).2 other hother
    rwa [hin low hlow, heq, ← hout e hnot] at hother'
  · intro hbelow
    rw [← hlowest]
    refine pick_eq_of_mem_iff fun e he => ?_
    rw [hlowest, mem_pick_lowest]
    by_cases hlow : e ∈ lowest
    · refine iff_of_true ⟨he, fun other hother => ?_⟩ hlow
      rw [hin e hlow]
      by_cases hother' : other ∈ lowest
      · rw [hin other hother']
        exact Int.add_le_add_right (((hmem e).mp hlow).2 other hother) _
      · rw [hout other hother']
        exact (hbelow e hlow other hother hother').le
    · obtain ⟨low, hleast⟩ := exists_mem_pick_lowest stats source candidates he
      rw [hlowest] at hleast
      refine iff_of_false (fun hnow => ?_) hlow
      have hle := hnow.2 low ((hmem low).mp hleast).1
      rw [hout e hlow, hin low hleast] at hle
      exact absurd (hbelow low hleast e he hlow) (not_lt.mpr hle)

lemma accepts_again {selector : Selector} (halone : selector ≠ .hasLowestHealth) {added : Int}
    (h : Confirms selector added) {e : EntityId} (all all' : List Int) (own : Int) :
    accepts selector source e all'
        (own + if accepts selector source e all own = true then added else 0) =
      accepts selector source e all own := by
  cases selector with
  | hasLowestHealth => exact absurd rfl halone
  | minion => rfl
  | notSelf => rfl
  | damaged | hasTaunt | attackAtLeast =>
    simp only [Confirms] at h
    rw [Bool.eq_iff_iff]
    simp only [accepts, decide_eq_true_eq]
    split <;> omega

/-- A selector that sticks to those it has picked picks them again. -/
lemma pick_changed {selector : Selector} {added : String → Int}
    (h : Confirms selector (reading selector added)) :
    pick selector (changed stats (pick selector stats source candidates) added) source candidates =
      pick selector stats source candidates := by
  by_cases hselector : selector = .hasLowestHealth
  · subst hselector
    rw [pick_lowest_changed_iff]
    intro low hlow e he hnot
    have hadded : added Stat.health ≤ 0 := h
    have hleast := ((mem_pick_lowest stats source candidates).mp hlow).2
    have hless : stats low Stat.health < stats e Stat.health := by
      refine lt_of_le_of_ne (hleast e he) fun heq => hnot ?_
      exact (mem_pick_lowest stats source candidates).mpr ⟨he, heq ▸ hleast⟩
    omega
  · refine pick_eq_of_mem_iff fun e he => ?_
    rw [mem_pick, reading_changed]
    simp only [mem_pick, he, true_and, accepts_again hselector h]

end OwnChange

end CardEffects.Proofs
