import CardEffects.Fault

/-!
# Tagged records

A record is an object. One of its fields names the part, the others are its parameters. A reader
takes the fields it knows one after another and then refuses what is left.
-/

namespace CardEffects

namespace Record

/-- The field that names an action, a condition, a selector or a targeting. -/
def typeTag : String := "type"

/-- The field that names an event. -/
def eventTag : String := "event_name"

/-- The record of a part with parameters. -/
def named (name : String) (params : Fields) : Json :=
  .obj (Fields.insert params typeTag (.str name))

/-- The record of a part without parameters. -/
def bare (name : String) : Json :=
  named name []

/-- The record of a part whose parameters are given as one value: an object, or `null` for a part
without parameters. -/
def ofParams (family : Family) (name : String) (params : Json) : Except Fault Json :=
  match params with
  | .obj fields => .ok (named name fields)
  | .null => .ok (bare name)
  | found => .error (.malformedRecord family (.parametersNotAnObject name found))

def fields (family : Family) (record : Json) : Except Fault Fields :=
  match record with
  | .obj fields => .ok fields
  | found => .error (.malformedRecord family (.notAnObject found))

/-- The name of a part as it is written, and its parameters. -/
def nameAndParams (family : Family) (tag : String) (record : Json) :
    Except Fault (String × Fields) := do
  let params ← fields family record
  match Table.get? params tag with
  | some (.str name) => .ok (name, Table.erase params tag)
  | some found => .error (.malformedRecord family (.nameNotAString tag found))
  | none => .error (.malformedRecord family (.missingField tag))

/-- Take a field that may be absent. A field that holds `null` counts as absent. -/
def optional (params : Fields) (field : String) : Option Json × Fields :=
  ((Table.get? params field).filter (!·.isNull), Table.erase params field)

/-- Take a field that must be there. -/
def required (family : Family) (params : Fields) (field : String) :
    Except Fault (Json × Fields) :=
  match Table.get? params field with
  | some value => .ok (value, Table.erase params field)
  | none => .error (.malformedRecord family (.missingField field))

/-- Refuse what is left of the parameters. -/
def noneLeft (family : Family) (name : String) (params : Fields) : Except Fault Unit :=
  match Fields.leastName? params with
  | none => .ok ()
  | some field => .error (.malformedRecord family (.unexpectedField field name))

end Record

end CardEffects
