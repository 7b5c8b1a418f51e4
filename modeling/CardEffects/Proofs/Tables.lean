import CardEffects.Table
import Mathlib.Tactic.Lemma

/-!
# Look-ups in tables

How the value under a key, the list of keys and the list of entries of a table depend on one
another.
-/

namespace CardEffects.Proofs

variable {κ α β : Type} [DecidableEq κ]

lemma mem_of_get? {t : Table κ α} {k : κ} {v : α}
    (h : Table.get? t k = some v) : (k, v) ∈ t := by
  induction t with
  | nil => cases h
  | cons entry t ih =>
    by_cases hk : entry.1 = k
    · simp only [Table.get?, hk, if_true, Option.some.injEq] at h
      subst hk h
      exact List.mem_cons_self
    · exact List.mem_cons_of_mem _ (ih (by simpa [Table.get?, hk] using h))

lemma get?_of_mem {t : Table κ α} {k : κ} {v : α} (hnodup : (Table.keys t).Nodup)
    (h : (k, v) ∈ t) : Table.get? t k = some v := by
  induction t with
  | nil => cases h
  | cons entry t ih =>
    simp only [Table.keys, List.map_cons, List.nodup_cons] at hnodup
    cases List.mem_cons.1 h with
    | inl heq =>
      subst heq
      simp [Table.get?]
    | inr hmem =>
      have hne : entry.1 ≠ k := by
        rintro rfl
        exact hnodup.1 (List.mem_map.2 ⟨_, hmem, rfl⟩)
      simpa [Table.get?, hne] using ih hnodup.2 hmem

lemma get?_eq_none_of_not_mem {t : Table κ α} {k : κ} :
    Table.get? t k = none ↔ k ∉ Table.keys t := by
  induction t with
  | nil => simp [Table.keys]
  | cons entry t ih =>
    by_cases hk : entry.1 = k
    · simp [Table.get?, Table.keys, hk]
    · simp [Table.get?, Table.keys, hk, ih, eq_comm (a := k)]

lemma get?_map_values (t : Table κ α) (f : α → β) (k : κ) :
    Table.get? (t.map fun entry => (entry.1, f entry.2)) k = (Table.get? t k).map f := by
  induction t with
  | nil => rfl
  | cons entry t ih =>
    by_cases hk : entry.1 = k
    · simp [Table.get?, hk]
    · simp [Table.get?, hk, ih]

lemma get?_filter_keys (t : Table κ α) (p : κ → Bool) (k : κ) :
    Table.get? (t.filter fun entry => p entry.1) k = if p k then Table.get? t k else none := by
  induction t with
  | nil => simp
  | cons entry t ih =>
    by_cases hk : entry.1 = k
    · subst hk
      by_cases hp : p entry.1
      · simp [Table.get?, hp]
      · simpa [Table.get?, hp] using ih
    · by_cases hp : p entry.1
      · simpa [Table.get?, hp, hk] using ih
      · simpa [Table.get?, hp, hk] using ih

lemma map_table_modify (t : Table κ α) (k : κ) (f : α → α)
    (g : κ × α → β) (h : ∀ k a, g (k, f a) = g (k, a)) : (t.modify k f).map g = t.map g := by
  induction t with
  | nil => rfl
  | cons entry t ih =>
    by_cases hk : entry.1 = k
    · subst hk
      simp [Table.modify, ih, h]
    · simp [Table.modify, hk, ih]

lemma insert_eq_append {t : Table κ α} {k : κ}
    (h : Table.get? t k = none) (v : α) : Table.insert t k v = t ++ [(k, v)] := by
  induction t with
  | nil => rfl
  | cons entry t ih =>
    by_cases hk : entry.1 = k
    · simp [Table.get?, hk] at h
    · have htail : Table.get? t k = none := by simpa [Table.get?, hk] using h
      simp [Table.insert, hk, ih htail]

lemma mem_insert_cases {t : Table κ α} {k : κ} {v : α} {entry : κ × α}
    (h : entry ∈ Table.insert t k v) : entry = (k, v) ∨ entry ∈ t := by
  induction t with
  | nil => exact .inl (List.mem_singleton.mp h)
  | cons old t ih =>
    by_cases hk : old.1 = k
    · rw [Table.insert, if_pos hk, hk, List.mem_cons] at h
      exact h.imp_right (List.mem_cons_of_mem _)
    · rw [Table.insert, if_neg hk, List.mem_cons] at h
      rcases h with rfl | h
      · exact .inr List.mem_cons_self
      · exact (ih h).imp_right (List.mem_cons_of_mem _)

lemma nodup_keys_insert {t : Table κ α} (h : (Table.keys t).Nodup) (k : κ) (v : α) :
    (Table.keys (Table.insert t k v)).Nodup := by
  induction t with
  | nil => simp [Table.insert, Table.keys]
  | cons old t ih =>
    rw [Table.keys, List.map_cons, List.nodup_cons] at h
    by_cases hk : old.1 = k
    · rw [Table.insert, if_pos hk]
      exact List.nodup_cons.mpr h
    · rw [Table.insert, if_neg hk]
      refine List.nodup_cons.mpr ⟨fun hmem => ?_, ih h.2⟩
      obtain ⟨entry, hentry, hold⟩ := List.mem_map.mp hmem
      rcases mem_insert_cases hentry with rfl | hentry
      · exact hk hold.symm
      · exact h.1 (List.mem_map.mpr ⟨entry, hentry, hold⟩)

lemma nodup_keys_erase {t : Table κ α} (h : (Table.keys t).Nodup) (k : κ) :
    (Table.keys (Table.erase t k)).Nodup :=
  h.sublist (List.filter_sublist.map _)

lemma erase_eq_self {t : Table κ α} {k : κ}
    (h : Table.get? t k = none) : Table.erase t k = t := by
  induction t with
  | nil => rfl
  | cons entry t ih =>
    by_cases hk : entry.1 = k
    · simp [Table.get?, hk] at h
    · have htail : Table.get? t k = none := by simpa [Table.get?, hk] using h
      simpa [Table.erase, hk] using ih htail

end CardEffects.Proofs
