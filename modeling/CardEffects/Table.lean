/-!
# Tables

A table is a list of key and value pairs read from the left. Inserting replaces a value in place
or adds the pair at the end, so the keys keep the order of their first insertion.
-/

namespace CardEffects

/-- A finite map, listed in the order its keys were first written. -/
abbrev Table (κ α : Type) : Type := List (κ × α)

namespace Table

variable {κ α : Type} [DecidableEq κ]

def get? : Table κ α → κ → Option α
  | [], _ => none
  | (k', v) :: t, k => if k' = k then some v else get? t k

/-- Store a value, in place of the old one if there is one. -/
def insert : Table κ α → κ → α → Table κ α
  | [], k, v => [(k, v)]
  | (k', w) :: t, k, v => if k' = k then (k', v) :: t else (k', w) :: insert t k v

def erase (t : Table κ α) (k : κ) : Table κ α :=
  t.filter fun entry => entry.1 ≠ k

/-- Update the value under a key. A key that is absent stays absent. -/
def modify : Table κ α → κ → (α → α) → Table κ α
  | [], _, _ => []
  | (k', v) :: t, k, f => (if k' = k then (k', f v) else (k', v)) :: modify t k f

def contains (t : Table κ α) (k : κ) : Bool :=
  (get? t k).isSome

def keys (t : Table κ α) : List κ :=
  t.map (·.1)

@[simp] theorem get?_nil (k : κ) : get? ([] : Table κ α) k = none := rfl

@[simp] theorem get?_insert_self (t : Table κ α) (k : κ) (v : α) :
    get? (insert t k v) k = some v := by
  induction t with
  | nil => simp [insert, get?]
  | cons entry t ih =>
    by_cases h : entry.1 = k
    · simp [insert, get?, h]
    · simp [insert, get?, h, ih]

theorem get?_insert_of_ne (t : Table κ α) {k k' : κ} (v : α) (h : k ≠ k') :
    get? (insert t k v) k' = get? t k' := by
  induction t with
  | nil => simp [insert, get?, h]
  | cons entry t ih =>
    by_cases hk : entry.1 = k
    · subst hk
      simp [insert, get?, h]
    · simp [insert, get?, hk, ih]

@[simp] theorem get?_erase_self (t : Table κ α) (k : κ) : get? (erase t k) k = none := by
  induction t with
  | nil => rfl
  | cons entry t ih =>
    by_cases h : entry.1 = k
    · simpa [erase, h] using ih
    · simpa [erase, get?, h] using ih

theorem get?_erase_of_ne (t : Table κ α) {k k' : κ} (h : k ≠ k') :
    get? (erase t k) k' = get? t k' := by
  induction t with
  | nil => rfl
  | cons entry t ih =>
    by_cases hk : entry.1 = k
    · have hne : entry.1 ≠ k' := hk ▸ h
      simpa [erase, get?, hk, h] using ih
    · by_cases hk' : entry.1 = k'
      · subst hk'
        simp [erase, get?, hk]
      · simpa [erase, get?, hk, hk'] using ih

@[simp] theorem get?_modify_self (t : Table κ α) (k : κ) (f : α → α) :
    get? (modify t k f) k = (get? t k).map f := by
  induction t with
  | nil => rfl
  | cons entry t ih =>
    by_cases h : entry.1 = k
    · simp [modify, get?, h]
    · simp [modify, get?, h, ih]

theorem get?_modify_of_ne (t : Table κ α) {k k' : κ} (f : α → α) (h : k ≠ k') :
    get? (modify t k f) k' = get? t k' := by
  induction t with
  | nil => rfl
  | cons entry t ih =>
    by_cases hk : entry.1 = k
    · subst hk
      simp [modify, get?, h, ih]
    · simp [modify, get?, hk, ih]

@[simp] theorem keys_modify (t : Table κ α) (k : κ) (f : α → α) :
    keys (modify t k f) = keys t := by
  induction t with
  | nil => rfl
  | cons entry t ih =>
    by_cases h : entry.1 = k <;> simpa [modify, keys, h] using ih

end Table

end CardEffects
