import CardEffects.Record.Options
import CardEffects.Record.Registry

/-!
# Reading parameters

What a form of a part makes of the parameters it is given. A condition is read one level deep:
the records of its parts are still to be read.
-/

namespace CardEffects

/-- A part without parameters, read from what it is given. -/
def Leftover.read {α : Type} (leftover : Leftover) (family : Family) (name : String)
    (params : Fields) (part : α) : Except Fault α :=
  match leftover with
  | .refused => (Record.noneLeft family name params).map fun _ => part
  | .ignored => .ok part

/-- The only parameter of a part, read by `read`. -/
def Record.soleParam {α : Type} (family : Family) (name field : String) (params : Fields)
    (read : Json → Option α) : Except Fault α :=
  match (Json.soleField? field params).bind read with
  | some value => .ok value
  | none => .error (.invalidParameters family name)

/-- An optional field, read by `read`. -/
def Record.option {α : Type} (family : Family) (field : String) (value : Option Json)
    (read : Json → Option α) : Except Fault (Option α) :=
  match value with
  | none => .ok none
  | some value =>
    match read value with
    | some option => .ok (some option)
    | none => .error (.invalidParameters family field)

def ChangeForm.read (form : ChangeForm) (name : String) (params : Fields) :
    Except Fault StatChange :=
  match form with
  | .constant change leftover => leftover.read .action name params change
  | .attack => (Record.soleParam .action name "amount" params Json.amount?).map .attack
  | .health => (Record.soleParam .action name "amount" params Json.amount?).map .health
  | .built build => build params

def ActionForm.read (form : ActionForm) (name : String) (params : Fields) :
    Except Fault Action :=
  match form with
  | .change form _ => (form.read name params).map .change
  | .damage => (Record.soleParam .action name "amount" params Json.amount?).map .damage
  | .heal => (Record.soleParam .action name "amount" params Json.amount?).map .heal
  | .built build => build params

def SelectorForm.read (form : SelectorForm) (name : String) (params : Fields) :
    Except Fault Selector :=
  match form with
  | .constant selector leftover => leftover.read .selector name params selector
  | .attackAtLeast =>
    (Record.soleParam .selector name "min" params Json.amount?).map .attackAtLeast
  | .built build => build params

def TargetingForm.read (form : TargetingForm) (name : String) (params : Fields) :
    Except Fault Targeting :=
  match form with
  | .constant targeting leftover => leftover.read .targeting name params targeting
  | .fixed => (Record.soleParam .targeting name "entity" params Json.entity?).map .fixed
  | .built build => build params

/-- A condition whose parts are still records. -/
inductive ConditionHead where
  | leaf (condition : Condition)
  | negation (inner : Json)
  | all (items : List Json)
  | any (items : List Json)

/-- The list of records in the parameter `conditions`. -/
def Record.conditionList (name : String) (params : Fields) : Except Fault (List Json) := do
  let (list, rest) ← required .condition params "conditions"
  noneLeft .condition name rest
  match list with
  | .arr items => .ok items
  | found => .error (.malformedRecord .condition (.notAnArray "conditions" found))

/-- A condition from its parameters, down to the records of its parts. -/
def ConditionForm.read (form : ConditionForm) (name : String) (params : Fields) :
    Except Fault ConditionHead :=
  match form with
  | .constant condition leftover => leftover.read .condition name params (.leaf condition)
  | .amountAtLeast =>
    (Record.soleParam .condition name "min" params Json.amount?).map
      fun min => .leaf (.amountAtLeast min)
  | .negation => do
    let (inner, rest) ← Record.required .condition params "condition"
    Record.noneLeft .condition name rest
    return .negation inner
  | .all => (Record.conditionList name params).map .all
  | .any => (Record.conditionList name params).map .any
  | .built build => (build params).map .leaf

/-! A part of a record is smaller than the record, so reading parts comes to an end. -/

theorem Fields.sizeOf_get? {fields : Fields} {name : String} {value : Json}
    (h : Table.get? fields name = some value) : sizeOf value < sizeOf fields := by
  induction fields with
  | nil => cases h
  | cons field fields ih =>
    cases field with
    | mk name' value' =>
      simp only [Table.get?] at h
      simp only [List.cons.sizeOf_spec, Prod.mk.sizeOf_spec]
      split at h
      · cases h
        omega
      · have := ih h
        omega

theorem Fields.sizeOf_erase_le (fields : Fields) (name : String) :
    sizeOf (Table.erase fields name) ≤ sizeOf fields := by
  induction fields with
  | nil => exact Nat.le_refl _
  | cons field fields ih =>
    simp only [Table.erase, List.filter_cons] at ih ⊢
    split <;> simp only [List.cons.sizeOf_spec] <;> omega

theorem Record.sizeOf_nameAndParams {family : Family} {tag : String} {record : Json}
    {found : String × Fields} (h : nameAndParams family tag record = .ok found) :
    sizeOf found.2 < sizeOf record := by
  cases record with
  | obj fields =>
    simp only [nameAndParams, Record.fields, bind, Except.bind] at h
    split at h
    · cases h
      have := Fields.sizeOf_erase_le fields tag
      simp only [Json.obj.sizeOf_spec]
      omega
    · cases h
    · cases h
  | _ => cases h

theorem Record.sizeOf_required {family : Family} {params : Fields} {field : String}
    {found : Json × Fields} (h : required family params field = .ok found) :
    sizeOf found.1 < sizeOf params := by
  unfold required at h
  split at h
  · next hget =>
    cases h
    exact Fields.sizeOf_get? hget
  · cases h

/-- The records that the parts of a condition are still to be read from. -/
def ConditionHead.records : ConditionHead → List Json
  | .leaf _ => []
  | .negation inner => [inner]
  | .all items => items
  | .any items => items

theorem Record.sizeOf_conditionList {name : String} {params : Fields} {items : List Json}
    (h : conditionList name params = .ok items) : sizeOf items < sizeOf params := by
  simp only [conditionList, bind, Except.bind] at h
  split at h
  · cases h
  · next found hfound =>
    have hlt := sizeOf_required hfound
    split at h
    · cases h
    · split at h
      · next harr =>
        cases h
        rw [harr, Json.arr.sizeOf_spec] at hlt
        omega
      · cases h

theorem ConditionForm.sizeOf_read {form : ConditionForm} {name : String} {params : Fields}
    {head : ConditionHead} (h : form.read name params = .ok head) {part : Json}
    (hpart : part ∈ head.records) : sizeOf part < sizeOf params := by
  cases form with
  | constant condition leftover =>
    cases leftover with
    | refused =>
      simp only [read, Leftover.read, Except.map] at h
      split at h <;> cases h
      cases hpart
    | ignored =>
      cases h
      cases hpart
  | amountAtLeast =>
    simp only [read, Except.map] at h
    split at h <;> cases h
    cases hpart
  | negation =>
    simp only [read, bind, Except.bind] at h
    split at h
    · cases h
    · next found hfound =>
      split at h
      · cases h
      · cases h
        rw [List.mem_singleton.1 hpart]
        exact Record.sizeOf_required hfound
  | all =>
    simp only [read, Except.map] at h
    split at h <;> cases h
    next items hitems =>
    have := List.sizeOf_lt_of_mem hpart
    have := Record.sizeOf_conditionList hitems
    simp only [ConditionHead.records] at *
    omega
  | any =>
    simp only [read, Except.map] at h
    split at h <;> cases h
    next items hitems =>
    have := List.sizeOf_lt_of_mem hpart
    have := Record.sizeOf_conditionList hitems
    simp only [ConditionHead.records] at *
    omega
  | built build =>
    simp only [read, Except.map] at h
    split at h <;> cases h
    cases hpart

end CardEffects
