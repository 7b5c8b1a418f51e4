import CardEffects.Table

/-!
# JSON values

Rule records are JSON objects. The fields of an object are kept sorted by name, in code point
order, and a number that is not written as a 64-bit integer keeps the text it was written with.
-/

namespace CardEffects

/-- A JSON value. -/
inductive Json where
  | null
  | bool (value : Bool)
  | int (value : Int)
  | float (text : String)
  | str (text : String)
  | arr (items : List Json)
  | obj (fields : List (String × Json))

/-- The fields of an object, by name. -/
abbrev Fields := Table String Json

namespace Fields

/-- Store a field at its place in the order of names. -/
def insert : Fields → String → Json → Fields
  | [], name, value => [(name, value)]
  | (name', value') :: fields, name, value =>
    if name' = name then (name, value) :: fields
    else if name < name' then (name, value) :: (name', value') :: fields
    else (name', value') :: insert fields name value

/-- Sort fields by name. Of two fields with one name the later stays. -/
def ofList (fields : List (String × Json)) : Fields :=
  fields.foldl (fun sorted field => insert sorted field.1 field.2) []

/-- The least name in use. -/
def leastName? : Fields → Option String
  | [] => none
  | (name, _) :: fields =>
    match leastName? fields with
    | none => some name
    | some least => some (if least < name then least else name)

@[simp] theorem get?_insert_self (fields : Fields) (name : String) (value : Json) :
    Table.get? (insert fields name value) name = some value := by
  induction fields with
  | nil => simp [insert, Table.get?]
  | cons field fields ih =>
    by_cases h : field.1 = name
    · simp [insert, Table.get?, h]
    · by_cases hlt : name < field.1
      · simp [insert, Table.get?, h, hlt]
      · simp [insert, Table.get?, h, hlt, ih]

theorem get?_insert_of_ne (fields : Fields) {name name' : String} (value : Json)
    (h : name ≠ name') :
    Table.get? (insert fields name value) name' = Table.get? fields name' := by
  induction fields with
  | nil => simp [insert, Table.get?, h]
  | cons field fields ih =>
    by_cases hf : field.1 = name
    · subst hf
      simp [insert, Table.get?, h]
    · by_cases hlt : name < field.1
      · simp [insert, Table.get?, hf, hlt, h]
      · simp [insert, Table.get?, hf, hlt, ih]

theorem leastName?_eq_none {fields : Fields} : leastName? fields = none ↔ fields = [] := by
  cases fields with
  | nil => simp [leastName?]
  | cons field fields =>
    simp only [leastName?]
    split <;> simp

end Fields

namespace Json

def object (fields : List (String × Json)) : Json :=
  .obj (Fields.ofList fields)

def isNull : Json → Bool
  | .null => true
  | _ => false

end Json

end CardEffects
