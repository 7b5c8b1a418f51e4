import CardEffects.Proofs.ChangeReversal
import CardEffects.Proofs.Newcomers

/-!
# Scopes divide the board

Each coverage takes in whole sides, so the friendly and the enemy minions of an owner are the two
halves of all minions. Whatever is done with a minion aura, also where it fails half way, it is done
to minions of the coverage, and all other stats stay.
-/

namespace CardEffects.Proofs

/-! ### Halves of the board -/

/-- How the minions in play fall to the three coverages of an owner, when `all` lists them. -/
structure Divided (b : Board) (owner : EntityId) (all : List EntityId) : Prop where
  all_eq : Coverage.all.minions b owner = .ok all
  friendly_eq : Coverage.friendly.minions b owner =
    .ok (all.filter fun e => b.controller? e = b.controller? owner)
  enemy_eq : Coverage.enemy.minions b owner =
    .ok (all.filter fun e => b.controller? e ≠ b.controller? owner)
  /-- The sides follow one another in the order of the seats, each from left to right. -/
  sides_eq : all = (PlayerId.all b.playerCount).flatMap b.minionsOf
  nodup : all.Nodup
  mem_iff : ∀ e, e ∈ all ↔ b.isMinion e = true

lemma flatMap_sides_filter {b : Board} (hwell : WellFormed (outline b)) (covers : PlayerId → Bool)
    {kept : EntityId → Bool}
    (hkept : ∀ e player, b.controller? e = some player → kept e = covers player)
    (players : List PlayerId) :
    (players.filter covers).flatMap b.minionsOf =
      (players.flatMap b.minionsOf).filter kept := by
  induction players with
  | nil => rfl
  | cons player players ih =>
    have hside : ∀ e ∈ b.minionsOf player, kept e = covers player := by
      intro e he
      obtain ⟨minion, hminion, rfl⟩ :=
        Option.map_eq_some_iff.mp (controller_of_mem_minionsOf hwell he)
      exact hkept e _ (controller?_of_minion? hwell hminion)
    rw [List.flatMap_cons, List.filter_append, ← ih]
    cases hcovers : covers player with
    | true =>
      rw [List.filter_cons_of_pos hcovers, List.flatMap_cons,
        List.filter_eq_self.mpr fun e he => (hside e he).trans hcovers]
    | false =>
      have hnone : (b.minionsOf player).filter kept = [] :=
        List.filter_eq_nil_iff.mpr fun e he => by simp [hside e he, hcovers]
      rw [List.filter_cons_of_neg (by simp [hcovers]), hnone, List.nil_append]

lemma minions_eq_filter {b : Board} (hwell : WellFormed (outline b)) (coverage : Coverage)
    {owner : EntityId} {controller : PlayerId} (howner : b.controller? owner = some controller)
    {kept : EntityId → Bool}
    (hkept : ∀ e player, b.controller? e = some player →
      kept e = coverage.covers controller player) :
    coverage.minions b owner =
      .ok (((PlayerId.all b.playerCount).flatMap b.minionsOf).filter kept) := by
  rw [← flatMap_sides_filter hwell _ hkept]
  exact minions_eq_ok.mpr ⟨controller, howner, rfl⟩

lemma Surveyed.divided {b : Board} (h : Surveyed b) {owner : EntityId}
    (howner : b.contains owner = true) : ∃ all, Divided b owner all := by
  have hwell := h.scopes.wellFormed
  rw [contains_eq_controller?] at howner
  obtain ⟨controller, hcontroller⟩ := Option.isSome_iff_exists.mp howner
  have hall : Coverage.all.minions b owner =
      .ok ((PlayerId.all b.playerCount).flatMap b.minionsOf) := by
    have hevery := minions_eq_filter hwell .all hcontroller fun _ _ _ => (rfl : true = _)
    rwa [List.filter_true] at hevery
  refine ⟨_, hall, ?_, ?_, rfl, ?_, fun e => ?_⟩
  · apply minions_eq_filter hwell .friendly hcontroller
    intro e player he
    rw [he, hcontroller]
    simp [Coverage.covers]
  · apply minions_eq_filter hwell .enemy hcontroller
    intro e player he
    rw [he, hcontroller]
    simp [Coverage.covers]
  · -- A minion stands on one side only, and there once.
    apply List.nodup_flatMap.mpr
    refine ⟨fun player _ => minionsOf_nodup hwell player, ?_⟩
    have hseats : (PlayerId.all b.playerCount).Nodup :=
      List.Nodup.map (fun _ _ => PlayerId.mk.inj) List.nodup_range
    exact hseats.imp fun hne => disjoint_minionsOf hwell hne
  · rw [mem_minions_iff hwell h.seated h.count_lt hall]
    refine and_iff_left_of_imp fun hminion => ?_
    obtain ⟨minion, hminion⟩ := Option.isSome_iff_exists.mp hminion
    exact ⟨controller, minion.controller, hcontroller, controller?_of_minion? hwell hminion, rfl⟩

lemma minions_error_iff {b : Board} {coverage : Coverage} {owner : EntityId} {fault : Fault} :
    coverage.minions b owner = .error fault ↔
      b.contains owner = false ∧ fault = .unknownEntity owner := by
  rw [contains_eq_controller?]
  unfold Coverage.minions
  cases b.controller? owner <;> simp [eq_comm]

/-! ### What is done with an aura -/

/-- Whether an entity is among those that a coverage takes in for an owner. -/
def TakenIn (b : Board) (coverage : Coverage) (owner e : EntityId) : Prop :=
  ∃ covered, coverage.minions b owner = .ok covered ∧ e ∈ covered

lemma TakenIn.isMinion {b : Board} (hwell : WellFormed (outline b)) {coverage : Coverage}
    {owner e : EntityId} (h : TakenIn b coverage owner e) :
    b.isMinion e = true ∧ b.seat? e = none := by
  obtain ⟨covered, hcovered, he⟩ := h
  have hminion := isMinion_of_mem_minions hwell hcovered he
  obtain ⟨minion, hget⟩ := Option.isSome_iff_exists.mp hminion
  have hnumber := playerCount_le_of_minion? hwell hget
  exact ⟨hminion, by simp [Board.seat?, not_lt.mpr hnumber]⟩

lemma takenIn_of_mem_matched {b : Board} (hwell : WellFormed (outline b)) {aura : MinionAura}
    {owner : EntityId} {matched : List EntityId} (h : aura.matched b owner = .ok matched)
    {e : EntityId} (he : e ∈ matched) : TakenIn b aura.players owner e := by
  obtain ⟨covered, hcovered, rfl⟩ := (matched_eq_ok hwell).mp h
  exact ⟨covered, hcovered, ((mem_pick ..).mp he).1⟩

lemma takenIn_of_seating {b b' : Board} (h : seating b' = seating b) {coverage : Coverage}
    {owner e : EntityId} : TakenIn b' coverage owner e ↔ TakenIn b coverage owner e := by
  unfold TakenIn
  rw [minions_eq_of_seating h]

lemma Surveyed.takenIn_of_mem_takenFrom {b : Board} (h : Surveyed b) {id : AuraId} {slot : Slot}
    {aura : MinionAura} (hget : Table.get? b.auras id = some { slot, aura := .minions aura })
    {e : EntityId} (he : e ∈ takenFrom b aura) : TakenIn b aura.players slot.owner e := by
  have hwell := h.scopes.wellFormed
  obtain ⟨hminion, hscope⟩ := inScope_of_mem_takenFrom h.scopes hget he
  have howner : b.contains slot.owner = true :=
    (inPlay_outline_iff b _).mp (hwell.fits id _ hget).owner_inPlay
  obtain ⟨matched, hmatched⟩ := matched_isOk aura howner
  obtain ⟨covered, hcovered, -⟩ := (matched_eq_ok hwell).mp hmatched
  exact ⟨covered, hcovered,
    (mem_minions_iff hwell h.seated h.count_lt hcovered e).mpr ⟨hminion, hscope.1⟩⟩

/-- Whether an operation keeps every stat of all entities but some, even where it fails. -/
def Spares {α : Type} (operation : BoardM α) (b : Board) (touched : EntityId → Prop) : Prop :=
  ∀ e, ¬touched e → ∀ key, (leftBy operation b).stat? e key = b.stat? e key

lemma onTargets_of_not_mem {targets : List EntityId} {e : EntityId} (h : e ∉ targets)
    (d : String → Int) (key : String) : onTargets targets d e key = 0 := by
  simp [onTargets, List.count_eq_zero_of_not_mem h]

lemma switchOff_spares (aura : MinionAura) (b : Board) :
    Spares aura.switchOff b fun e => e ∈ takenFrom b aura := by
  intro e he key
  have hrun := minions_switchOff_run aura b
  cases hactive : aura.active with
  | none =>
    simp only [hactive] at hrun
    rw [leftBy_of_error hrun]
  | some active =>
    obtain ⟨slot, affected⟩ := active
    cases hleaving : aura.leaving b slot.owner affected with
    | error fault =>
      simp only [hactive, hleaving] at hrun
      rw [leftBy_of_error hrun]
    | ok targets =>
      simp only [hactive, hleaving] at hrun
      rw [takenFrom_of_leaving hactive hleaving] at he
      rcases undoOnMinions_outcome aura.change targets b with
        ⟨b', hundo, hshift⟩ | ⟨done, target, rest, _, b', hsplit, hundo, hshift, -⟩
      · rw [leftBy_of_ok (hrun.trans hundo)]
        exact hshift.stat?_eq (onTargets_of_not_mem he _ _)
      · rw [leftBy_of_error (hrun.trans hundo)]
        rw [hsplit] at he
        exact hshift.stat?_eq (onTargets_of_not_mem (fun hmem => he (by simp [hmem])) _ _)

lemma stat?_eq_of_character? {b b' : Board} (h : b'.character? = b.character?) (e : EntityId)
    (key : String) : b'.stat? e key = b.stat? e key := by
  unfold Board.stat?
  rw [h]

lemma takenFrom_deregistered (b : Board) (id : AuraId) (holder : PlayerId) (aura : MinionAura) :
    takenFrom (deregistered b id holder) aura = takenFrom b aura := by
  unfold takenFrom
  simp only [leaving_deregistered]
  rfl

section Surveyed

variable {b : Board} (h : Surveyed b)

include h

lemma Surveyed.addAura_spares (holder : PlayerId) (owner : EntityId) (aura : MinionAura) :
    Spares (Board.addAura holder owner (.minions aura)) b (TakenIn b aura.players owner) := by
  intro e he key
  cases hadd : Board.addAura holder owner (.minions aura) b with
  | error fault b' =>
    rw [leftBy_of_error hadd]
    rcases addAura_error hadd with rfl | hshift
    · rfl
    · exact hshift.stat?_eq rfl
  | ok id b' =>
    rw [leftBy_of_ok hadd]
    obtain ⟨-, -, aura', b₁, hon, rfl⟩ := addAura_ok hadd
    rcases aura_switchOn_ok hon with ⟨m, m', hm, -, hrun⟩ | ⟨p, -, hp, -⟩
    · cases hm
      obtain ⟨matched, hmatched, -, hshift⟩ := minions_switchOn_ok hrun
      have hnumbered : WellFormed (outline (numbered b)) := h.scopes.wellFormed.number_aura
      have hout : e ∉ matched := fun hmem => he (takenIn_of_mem_matched hnumbered hmatched hmem)
      rw [stat?_eq_of_character? (character?_registered b₁ _ _)]
      exact hshift.stat?_eq (onTargets_of_not_mem hout _ _)
    · cases hp

variable {id : AuraId} {slot : Slot} {aura : MinionAura}
  (hget : Table.get? b.auras id = some { slot, aura := .minions aura })

include hget

lemma Surveyed.removeAura_spares :
    Spares (Board.removeAura id) b (TakenIn b aura.players slot.owner) := by
  intro e he key
  have hleft : e ∉ takenFrom (deregistered b id slot.holder) aura := by
    rw [takenFrom_deregistered]
    exact fun hmem => he (h.takenIn_of_mem_takenFrom hget hmem)
  rw [leftBy_removeAura, hget]
  refine (switchOff_spares aura _ e hleft key).trans ?_
  exact stat?_eq_of_character? (character?_deregistered b id slot.holder) e key

/-- A refresh switches the aura off and on again, and whom it is put on is read off a board with the
same sides. -/
lemma Surveyed.refreshAura_spares :
    Spares (Board.refreshAura id) b (TakenIn b aura.players slot.owner) := by
  intro e he key
  have hleft : e ∉ takenFrom b aura := fun hmem => he (h.takenIn_of_mem_takenFrom hget hmem)
  have hspared := switchOff_spares aura b e hleft key
  have hbare := minions_switchOff_bare aura b
  have hrun := refreshAura_run id b
  simp only [hget] at hrun
  cases hoff : aura.switchOff b with
  | error fault b₁ =>
    simp only [hoff] at hrun
    rw [leftBy_of_error hoff] at hspared
    rw [leftBy_of_error hrun]
    exact hspared
  | ok _ b₁ =>
    simp only [hoff] at hrun
    rw [leftBy_of_ok hoff] at hspared hbare
    have houtline := outline_eq_of_bare hbare
    cases hon : aura.off.switchOn slot b₁ with
    | error fault b₂ =>
      simp only [hon] at hrun
      rw [leftBy_of_error hrun]
      exact ((minions_switchOn_error hon).stat?_eq rfl).trans hspared
    | ok aura' b₂ =>
      simp only [hon] at hrun
      rw [leftBy_of_ok hrun]
      obtain ⟨matched, hmatched, -, hshift⟩ := minions_switchOn_ok hon
      have hwell : WellFormed (outline b₁) := houtline ▸ h.scopes.wellFormed
      have hout : e ∉ matched := fun hmem => he <|
        (takenIn_of_seating (seating_eq_of_outline houtline)).mp
          (takenIn_of_mem_matched hwell hmatched hmem)
      exact (hshift.stat?_eq (onTargets_of_not_mem hout _ _)).trans hspared

end Surveyed

/-! ### A refresh of all auras -/

/-- Whether an entity is taken in by the coverage of some registered aura. -/
def TakenInBySome (b : Board) (e : EntityId) : Prop :=
  ∃ id slot aura, Table.get? b.auras id = some { slot, aura := .minions aura } ∧
    TakenIn b aura.players slot.owner e

lemma Surveyed.develops {b b' : Board} (h : Surveyed b) (hdev : Develops b b') : Surveyed b' := by
  have hseated := h.seated.develops hdev
  have hcount := hseated.playerCount_eq
  exact ⟨h.scopes.develops hdev, hcount ▸ hseated, hcount ▸ h.count_lt⟩

lemma TakenInBySome.before {b : Board} {id : AuraId} {e : EntityId}
    (h : TakenInBySome (leftBy (Board.refreshAura id) b) e) : TakenInBySome b e := by
  obtain ⟨id', slot, aura, hget, htaken⟩ := h
  rw [takenIn_of_seating (quiet_refreshAura id b).seating_eq] at htaken
  change Table.get? (leftBy (Move.refreshAura id).run b).auras id' = _ at hget
  rcases registered_step hget with
    hold | ⟨_, _, _, _, _, hmove, -⟩ | ⟨slot', aura', on, -, hold, hactive⟩
  · exact ⟨id', slot, aura, hold, htaken⟩
  · cases hmove
  · obtain ⟨rfl, haura⟩ := ActiveAura.mk.inj hactive
    cases haura
    exact ⟨id', slot, aura', hold, htaken⟩

lemma Surveyed.refreshOne_spares {b : Board} (h : Surveyed b) (id : AuraId) :
    Spares (Board.refreshAura id) b (TakenInBySome b) := by
  intro e he key
  by_cases hother : ∀ slot aura, Table.get? b.auras id ≠ some { slot, aura := .minions aura }
  · rw [leftBy_of_ok (refreshAura_idle hother)]
  · push Not at hother
    obtain ⟨slot, aura, hget⟩ := hother
    exact h.refreshAura_spares hget e (fun htaken => he ⟨id, slot, aura, hget, htaken⟩) key

lemma Surveyed.refreshEach_spares {b : Board} (h : Surveyed b) (ids : List AuraId) :
    Spares (Board.refreshEach ids) b (TakenInBySome b) := by
  induction ids generalizing b with
  | nil => exact fun e _ key => rfl
  | cons id ids ih =>
    intro e he key
    have hfirst := h.refreshOne_spares id e he key
    have hdev := (quiet_refreshAura id b).develops
    have hrest := ih (h.develops hdev) e (fun htaken => he htaken.before) key
    unfold Board.refreshEach
    cases hrun : Board.refreshAura id b with
    | error fault b₁ =>
      rw [leftBy_of_error hrun] at hfirst
      rwa [leftBy_of_error (by rw [bind_run, hrun])]
    | ok _ b₁ =>
      rw [leftBy_of_ok hrun] at hfirst hrest
      have hsame : leftBy (Board.refreshAura id >>= fun _ => Board.refreshEach ids) b =
          leftBy (Board.refreshEach ids) b₁ := by
        unfold leftBy
        rw [bind_run, hrun]
      rw [hsame]
      exact hrest.trans hfirst

/-- On every board of a run, whose minions a coverage takes in is known exactly when its owner is in
play, and then the friendly and the enemy ones divide all minions between them. To add a minion
aura, to remove it or to refresh it keeps every stat of those that its coverage does not take in,
who are all heroes among others. -/
theorem auras_stay_in_scope {σ : Type} {settings : Settings} {host : σ} {game : Game σ}
    (hnew : Game.new settings host = .ok game) (program : Program σ) {b : Board}
    (hb : b ∈ boards program game) :
    (∀ (coverage : Coverage) owner fault, coverage.minions b owner = .error fault ↔
      b.contains owner = false ∧ fault = .unknownEntity owner) ∧
    (∀ owner, b.contains owner = true → ∃ all, Divided b owner all) ∧
    (∀ coverage owner e, TakenIn b coverage owner e → b.isMinion e = true ∧ b.seat? e = none) ∧
    (∀ holder owner aura,
      Spares (Board.addAura holder owner (.minions aura)) b (TakenIn b aura.players owner)) ∧
    (∀ id slot aura, Table.get? b.auras id = some { slot, aura := .minions aura } →
      Spares (Board.removeAura id) b (TakenIn b aura.players slot.owner) ∧
      Spares (Board.refreshAura id) b (TakenIn b aura.players slot.owner)) ∧
    Spares Board.refreshAuras b (TakenInBySome b) := by
  have hdev := ((boards_develop (dispatching_new hnew) program).2 b hb).1
  have hsurveyed := surveyed_of_develops hnew hdev
  refine ⟨fun _ _ _ => minions_error_iff, fun _ howner => hsurveyed.divided howner,
    fun _ _ _ htaken => htaken.isMinion hsurveyed.scopes.wellFormed, hsurveyed.addAura_spares,
    fun id slot aura hget => ⟨hsurveyed.removeAura_spares hget, hsurveyed.refreshAura_spares hget⟩,
    fun e he key => ?_⟩
  have heach := hsurveyed.refreshEach_spares (refreshOrder b) e he key
  unfold leftBy at heach ⊢
  rwa [refreshAuras_run]

/-- Attack for the friendly minions, taken back from those that are friendly then. -/
def wardenAura : MinionAura :=
  { change := .attack .one, selector := .minion, removal := .recompute }

/-- Whose minions a registered minion aura covers, and which. -/
def scopeOf? : ActiveAura → Option (EntityId × Coverage)
  | ⟨slot, .minions aura⟩ => some (slot.owner, aura.players)
  | ⟨_, .player _⟩ => none

/-- The aura is put on, and then minions come on both sides. -/
def frontier : Program Unit :=
  .perform (.addAura ⟨0⟩ ⟨0⟩ (.minions wardenAura)) fun _ =>
    .perform (.summon ⟨0⟩ none "Warden" .one .one) fun _ =>
      .perform (.summon ⟨1⟩ none "Raider" .one .one) fun _ =>
        .perform (.summon ⟨0⟩ none "Scout" .one .one) fun _ => .finish (.ok ())

/-- When the aura goes, the friendly minions lose what they never had, and the enemy keeps its
attack. -/
theorem frontier_stays_in_scope :
    ∃ game, Game.new Settings.standard () = .ok game ∧ ∃ b ∈ boards frontier game,
      Divided b ⟨0⟩ [⟨2⟩, ⟨4⟩, ⟨3⟩] ∧
      (leftBy (Board.removeAura ⟨0⟩) b).stat? ⟨4⟩ Stat.attack = some .zero ∧
      (leftBy (Board.removeAura ⟨0⟩) b).stat? ⟨3⟩ Stat.attack = some .one := by
  obtain ⟨game, hnew⟩ : ∃ game, Game.new Settings.standard () = .ok game := ⟨_, rfl⟩
  have hlast : (leftBy (Game.execute frontier) game).board ∈ boards frontier game := by
    simp [boards]
  obtain ⟨-, hdivided, -, -, hregistered, -⟩ := auras_stay_in_scope hnew frontier hlast
  obtain ⟨all, hall⟩ := hdivided ⟨0⟩ (by cases hnew; decide +kernel)
  have hkind : ((Table.get? (leftBy (Game.execute frontier) game).board.auras ⟨0⟩).bind
      scopeOf?) = some (⟨0⟩, .friendly) := by
    cases hnew
    decide +kernel
  obtain ⟨⟨slot, aura⟩, hget, hscope⟩ := Option.bind_eq_some_iff.mp hkind
  obtain aura | aura := aura
  swap
  · exact absurd hscope (by simp [scopeOf?])
  obtain ⟨howner, hplayers⟩ := Prod.mk.inj (Option.some.inj hscope)
  refine ⟨game, hnew, _, hlast, ?_, by cases hnew; decide +kernel, ?_⟩
  · have hlisted : all = [⟨2⟩, ⟨4⟩, ⟨3⟩] := by
      rw [hall.sides_eq]
      cases hnew
      decide +kernel
    rwa [hlisted] at hall
  · have houtside : ¬TakenIn (leftBy (Game.execute frontier) game).board aura.players slot.owner
        ⟨3⟩ := by
      rw [howner, hplayers]
      rintro ⟨covered, hcovered, hmem⟩
      rw [hall.friendly_eq] at hcovered
      obtain rfl := Except.ok.inj hcovered
      have hfriend := (List.mem_filter.mp hmem).2
      cases hnew
      revert hfriend
      decide +kernel
    have hspared := (hregistered ⟨0⟩ _ _ hget).1 ⟨3⟩ houtside
    rw [hspared]
    cases hnew
    decide +kernel

end CardEffects.Proofs
