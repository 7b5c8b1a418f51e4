import CardEffects.Proofs.Outcomes
import Mathlib.Order.Bounds.Basic

/-!
# Laws of selection

Whatever the candidates are, heroes, strangers and repetitions among them, a selection keeps some
of their places. Which ones it keeps is said for each candidate by itself, or, for the lowest
health, by the least health among the minions that are shown. The laws of selection follow from that
alone.
-/

namespace CardEffects.Proofs

/-- What is left of a list when just the entries of a kind are kept, each in its place. -/
inductive Sifted {α : Type} (p : α → Prop) : List α → List α → Prop where
  | nil : Sifted p [] []
  | keep {a : α} {list kept : List α} : p a → Sifted p list kept → Sifted p (a :: list) (a :: kept)
  | drop {a : α} {list kept : List α} : ¬p a → Sifted p list kept → Sifted p (a :: list) kept

namespace Sifted

variable {α : Type} {p q : α → Prop} {list kept kept' : List α}

lemma filter (p : α → Bool) (list : List α) :
    Sifted (fun a => p a = true) list (list.filter p) := by
  induction list with
  | nil => exact .nil
  | cons a list ih =>
    by_cases ha : p a = true
    · rw [List.filter_cons_of_pos ha]
      exact .keep ha ih
    · rw [List.filter_cons_of_neg ha]
      exact .drop ha ih

lemma congr (h : Sifted p list kept) (hsame : ∀ a ∈ list, p a ↔ q a) : Sifted q list kept := by
  induction h with
  | nil => exact .nil
  | keep ha _ ih =>
    rw [List.forall_mem_cons] at hsame
    exact .keep (hsame.1.mp ha) (ih hsame.2)
  | drop ha _ ih =>
    rw [List.forall_mem_cons] at hsame
    exact .drop (fun hq => ha (hsame.1.mpr hq)) (ih hsame.2)

lemma all (h : ∀ a ∈ list, p a) : Sifted p list list := by
  induction list with
  | nil => exact .nil
  | cons a list ih =>
    rw [List.forall_mem_cons] at h
    exact .keep h.1 (ih h.2)

lemma sublist (h : Sifted p list kept) : kept.Sublist list := by
  induction h with
  | nil => exact .slnil
  | keep _ _ ih => exact ih.cons_cons _
  | drop _ _ ih => exact ih.cons _

lemma mem_iff (h : Sifted p list kept) {a : α} : a ∈ kept ↔ a ∈ list ∧ p a := by
  induction h with
  | nil => simp
  | keep hb _ ih =>
    simp only [List.mem_cons, ih]
    constructor
    · rintro (rfl | ⟨hmem, ha⟩)
      · exact ⟨.inl rfl, hb⟩
      · exact ⟨.inr hmem, ha⟩
    · rintro ⟨rfl | hmem, ha⟩
      · exact .inl rfl
      · exact .inr ⟨hmem, ha⟩
  | drop hb _ ih =>
    rw [ih, List.mem_cons]
    constructor
    · exact fun h => ⟨.inr h.1, h.2⟩
    · rintro ⟨rfl | hmem, ha⟩
      · exact absurd ha hb
      · exact ⟨hmem, ha⟩

lemma unique (h : Sifted p list kept) (h' : Sifted p list kept') : kept' = kept := by
  induction h generalizing kept' with
  | nil =>
    cases h'
    rfl
  | keep ha _ ih =>
    cases h' with
    | keep _ hrest => rw [ih hrest]
    | drop hnot _ => exact absurd ha hnot
  | drop hnot _ ih =>
    cases h' with
    | keep ha _ => exact absurd ha hnot
    | drop _ hrest => exact ih hrest

lemma eq_nil_iff (h : Sifted p list kept) : kept = [] ↔ ∀ a ∈ list, ¬p a := by
  rw [List.eq_nil_iff_forall_not_mem]
  exact forall_congr' fun a => by rw [h.mem_iff, not_and]

end Sifted

/-! ### Health -/

/-- The health of the minions in play among the candidates. -/
def healthsAmong (b : Board) (candidates : List EntityId) : Set Int :=
  {health | ∃ e ∈ candidates, ∃ minion, b.minion? e = some minion ∧
    (minion.body.stat Stat.health).val = health}

/-- Whether a candidate is a minion in play with the least health among those shown. -/
def HasLeastHealth (b : Board) (candidates : List EntityId) (e : EntityId) : Prop :=
  ∃ minion, b.minion? e = some minion ∧
    IsLeast (healthsAmong b candidates) (minion.body.stat Stat.health).val

section Health

variable (b : Board) {candidates : List EntityId}

lemma mem_healths {health : Int} :
    health ∈ Selector.healths b candidates ↔ health ∈ healthsAmong b candidates := by
  simp [Selector.healths, healthsAmong]

lemma min?_healths {health : Int} :
    (Selector.healths b candidates).min? = some health ↔
      IsLeast (healthsAmong b candidates) health := by
  rw [List.min?_eq_some_iff, mem_healths]
  exact and_congr_right fun _ => forall_congr' fun _ => by rw [mem_healths]

lemma sifted_lowest (source : EntityId) :
    Sifted (HasLeastHealth b candidates) candidates
      (Selector.select .hasLowestHealth b source candidates) := by
  unfold Selector.select
  cases hmin : (Selector.healths b candidates).min? with
  | none =>
    -- Nobody has a least health where there is none, so all candidates are dropped.
    have hnone : ∀ e, ¬HasLeastHealth b candidates e := by
      rintro e ⟨minion, -, hleast⟩
      rw [(min?_healths b).mpr hleast] at hmin
      cases hmin
    have hnil : candidates.filter (fun _ => false) = [] :=
      List.filter_eq_nil_iff.mpr fun _ _ => Bool.false_ne_true
    change Sifted _ candidates []
    rw [← hnil]
    exact (Sifted.filter _ candidates).congr fun e _ => by simp [hnone e]
  | some lowest =>
    rw [min?_healths] at hmin
    refine (Sifted.filter _ candidates).congr fun e _ => ?_
    simp only [Option.any_eq_true, decide_eq_true_eq]
    refine exists_congr fun minion => and_congr_right fun _ => ?_
    exact ⟨fun heq => heq ▸ hmin, fun hleast => hleast.unique hmin⟩

lemma exists_hasLeastHealth {e : EntityId} (hmem : e ∈ candidates) (he : b.isMinion e = true) :
    ∃ least ∈ candidates, HasLeastHealth b candidates least := by
  obtain ⟨minion, hminion⟩ := Option.isSome_iff_exists.mp he
  have hhealth := (mem_healths b).mpr ⟨e, hmem, minion, hminion, rfl⟩
  obtain ⟨lowest, hmin⟩ := Option.isSome_iff_exists.mp (List.isSome_min?_of_mem hhealth)
  rw [min?_healths] at hmin
  obtain ⟨least, hleast, minion', hminion', rfl⟩ := hmin.1
  exact ⟨least, hleast, minion', hminion', hmin⟩

end Health

/-! ### Selections -/

/-- Whether a selector keeps a candidate where it is shown among the candidates. -/
def Chosen (selector : Selector) (b : Board) (source : EntityId) (candidates : List EntityId)
    (e : EntityId) : Prop :=
  match selector with
  | .hasLowestHealth => HasLeastHealth b candidates e
  | selector => selector.keeps b source e = true

section Selections

variable (selector : Selector) (b : Board) (source : EntityId) (candidates : List EntityId)

lemma sifted_select :
    Sifted (Chosen selector b source candidates) candidates
      (selector.select b source candidates) := by
  cases selector with
  | hasLowestHealth => exact sifted_lowest b source
  | _ => exact Sifted.filter _ candidates

variable {selector b source candidates}

lemma isMinion_of_keeps {e : EntityId} (h : selector.keeps b source e = true) :
    b.isMinion e = true := by
  cases selector with
  | minion | hasLowestHealth => exact h
  | notSelf => exact (Bool.and_eq_true_iff.mp h).2
  | _ =>
    obtain ⟨minion, hminion, -⟩ := (Option.any_eq_true _ _).mp h
    simp [Board.isMinion, hminion]

lemma Chosen.isMinion {e : EntityId} (h : Chosen selector b source candidates e) :
    b.isMinion e = true := by
  cases selector with
  | hasLowestHealth =>
    obtain ⟨minion, hminion, -⟩ := h
    simp [Board.isMinion, hminion]
  | _ => exact isMinion_of_keeps h

lemma Chosen.anti {fewer : List EntityId} (hsub : fewer ⊆ candidates) {e : EntityId}
    (hmem : e ∈ fewer) (h : Chosen selector b source candidates e) :
    Chosen selector b source fewer e := by
  cases selector with
  | hasLowestHealth =>
    obtain ⟨minion, hminion, hleast⟩ := h
    refine ⟨minion, hminion, ⟨e, hmem, minion, hminion, rfl⟩, ?_⟩
    rintro health ⟨other, hother, hhealth⟩
    exact hleast.2 ⟨other, hsub hother, hhealth⟩
  | _ => exact h

lemma chosen_alone {e : EntityId} :
    Chosen selector b source [e] e ↔ selector.keeps b source e = true := by
  cases selector with
  | hasLowestHealth =>
    refine ⟨Chosen.isMinion, fun he => ?_⟩
    obtain ⟨least, hmem, hleast⟩ := exists_hasLeastHealth b List.mem_cons_self he
    rwa [List.mem_singleton.mp hmem] at hleast
  | _ => rfl

end Selections

/-- The laws of selection. What is kept are places of candidates who are minions in play, and
choosing again keeps all of it. A selector that looks at each candidate alone keeps those that it
accepts; that of the lowest health keeps those minions that have the least health of all minions
shown, so it keeps none only where none is shown. What a selector says of a candidate is what it
does when it is shown nobody else. -/
theorem selections_lawful (selector : Selector) (b : Board) (source : EntityId)
    (candidates : List EntityId) :
    (selector.select b source candidates).Sublist candidates ∧
    (∀ e ∈ selector.select b source candidates, b.isMinion e = true) ∧
    selector.select b source (selector.select b source candidates) =
      selector.select b source candidates ∧
    (selector.isAggregate = false →
      Sifted (fun e => selector.keeps b source e = true) candidates
        (selector.select b source candidates)) ∧
    (selector.isAggregate = true →
      Sifted (HasLeastHealth b candidates) candidates (selector.select b source candidates) ∧
      (selector.select b source candidates = [] ↔ ∀ e ∈ candidates, b.isMinion e = false)) ∧
    ∀ e, selector.keeps b source e = true ↔ selector.select b source [e] = [e] := by
  have hsifted := sifted_select selector b source candidates
  refine ⟨hsifted.sublist, fun e he => (hsifted.mem_iff.mp he).2.isMinion, ?_, fun halone => ?_,
    fun haggregate => ?_, fun e => ?_⟩
  · have hagain : ∀ e ∈ selector.select b source candidates,
        Chosen selector b source (selector.select b source candidates) e := fun e he =>
      (hsifted.mem_iff.mp he).2.anti hsifted.sublist.subset he
    exact (Sifted.all hagain).unique (sifted_select selector b source _)
  · cases selector with
    | hasLowestHealth => cases halone
    | _ => exact hsifted
  · cases selector with
    | hasLowestHealth =>
      refine ⟨hsifted, hsifted.eq_nil_iff.trans ⟨fun hnone e he => ?_, fun hnone e he hleast => ?_⟩⟩
      · by_contra hminion
        obtain ⟨least, hmem, hleast⟩ :=
          exists_hasLeastHealth b he (Bool.not_eq_false _ ▸ hminion)
        exact hnone least hmem hleast
      · have hminion := hleast.isMinion
        rw [hnone e he] at hminion
        cases hminion
    | _ => cases haggregate
  · rw [← chosen_alone]
    have halone := sifted_select selector b source [e]
    constructor
    · intro hchosen
      exact (Sifted.all (by simpa using hchosen)).unique halone
    · intro hsame
      rw [hsame] at halone
      exact (halone.mem_iff.mp List.mem_cons_self).2

/-- Three minions, of whom the first and the last have the same health. -/
def infirmary : Program Unit :=
  .perform (.summon ⟨0⟩ none "Squire" .one .one) fun _ =>
    .perform (.summon ⟨1⟩ none "Ogre" .one { val := 6 }) fun _ =>
      .perform (.summon ⟨0⟩ none "Acolyte" .one .one) fun _ => .finish (.ok ())

/-- A hero, one of the three twice, a stranger, and the two others. -/
def patients : List EntityId := [⟨0⟩, ⟨4⟩, ⟨9⟩, ⟨3⟩, ⟨2⟩, ⟨4⟩]

theorem infirmary_selections_lawful :
    ∃ game b, Game.new Settings.standard () = .ok game ∧
      b = (leftBy (Game.execute infirmary) game).board ∧
      Selector.isAggregate .hasLowestHealth = true ∧
      Sifted (HasLeastHealth b patients) patients [⟨4⟩, ⟨2⟩, ⟨4⟩] ∧
      Selector.isAggregate .notSelf = false ∧
      Sifted (fun e => Selector.keeps .notSelf b ⟨2⟩ e = true) patients [⟨4⟩, ⟨3⟩, ⟨4⟩] := by
  obtain ⟨game, hnew⟩ : ∃ game, Game.new Settings.standard () = .ok game := ⟨_, rfl⟩
  obtain ⟨-, -, -, -, hlowest, -⟩ := selections_lawful .hasLowestHealth
    (leftBy (Game.execute infirmary) game).board ⟨2⟩ patients
  obtain ⟨-, -, -, hnotSelf, -⟩ := selections_lawful .notSelf
    (leftBy (Game.execute infirmary) game).board ⟨2⟩ patients
  have hleast : Selector.select .hasLowestHealth (leftBy (Game.execute infirmary) game).board ⟨2⟩
      patients = [⟨4⟩, ⟨2⟩, ⟨4⟩] := by
    cases hnew
    decide +kernel
  have hothers : Selector.select .notSelf (leftBy (Game.execute infirmary) game).board ⟨2⟩
      patients = [⟨4⟩, ⟨3⟩, ⟨4⟩] := by
    cases hnew
    decide +kernel
  refine ⟨game, _, hnew, rfl, rfl, ?_, rfl, ?_⟩
  · rw [← hleast]
    exact (hlowest rfl).1
  · rw [← hothers]
    exact hnotSelf rfl

end CardEffects.Proofs
