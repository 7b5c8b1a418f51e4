import CardEffects.Record.Forms

/-!
# Reading records

A registry reads the records of the parts it knows. A part that is built from others reads their
records with the same registry, in a fixed order: first its own fields in the order it takes
them, then the parts in the order it lists them. The first fault is the result.
-/

namespace CardEffects

namespace Registry

/-- What a name stands for in a table of parts. -/
def find {form : Type} (table : Table String form) (family : Family) (name : String) :
    Except Fault form :=
  match Table.get? table (RuleName.key name) with
  | some entry => .ok entry
  | none => .error (.unknownName family name)

def action (registry : Registry) (record : Json) : Except Fault Action := do
  let (name, params) ← Record.nameAndParams .action Record.typeTag record
  let entry ← find registry.actions .action name
  entry.form.read entry.name params

/-- The action of a record, which must be registered as one that can be taken back. -/
def change (registry : Registry) (record : Json) : Except Fault StatChange := do
  let (name, params) ← Record.nameAndParams .action Record.typeTag record
  let entry ← find registry.actions .action name
  match entry.form with
  | .change form true => form.read entry.name params
  | _ => .error (.notReversible name)

def selector (registry : Registry) (record : Json) : Except Fault Selector := do
  let (name, params) ← Record.nameAndParams .selector Record.typeTag record
  let entry ← find registry.selectors .selector name
  entry.form.read entry.name params

def targeting (registry : Registry) (record : Json) : Except Fault Targeting := do
  let (name, params) ← Record.nameAndParams .targeting Record.typeTag record
  let entry ← find registry.targetings .targeting name
  entry.form.read entry.name params

/-- The condition of a record, down to the records of its parts. -/
def conditionHead (registry : Registry) (record : Json) : Except Fault ConditionHead := do
  let (name, params) ← Record.nameAndParams .condition Record.typeTag record
  let entry ← find registry.conditions .condition name
  entry.form.read entry.name params

theorem sizeOf_conditionHead {registry : Registry} {record : Json} {head : ConditionHead}
    (h : registry.conditionHead record = .ok head) {part : Json} (hpart : part ∈ head.records) :
    sizeOf part < sizeOf record := by
  simp only [conditionHead, bind, Except.bind] at h
  split at h
  · cases h
  · next found hfound =>
    have := Record.sizeOf_nameAndParams hfound
    split at h
    · cases h
    · have := ConditionForm.sizeOf_read h hpart
      omega

def condition (registry : Registry) (record : Json) : Except Fault Condition :=
  match h : registry.conditionHead record with
  | .error fault => .error fault
  | .ok (.leaf condition) => .ok condition
  | .ok (.negation inner) =>
    have : sizeOf inner < sizeOf record := sizeOf_conditionHead h (List.mem_singleton_self inner)
    (condition registry inner).map .negation
  | .ok (.all items) =>
    Except.map .all <| items.attach.mapM fun ⟨item, hitem⟩ =>
      have : sizeOf item < sizeOf record := sizeOf_conditionHead h hitem
      condition registry item
  | .ok (.any items) =>
    Except.map .any <| items.attach.mapM fun ⟨item, hitem⟩ =>
      have : sizeOf item < sizeOf record := sizeOf_conditionHead h hitem
      condition registry item
termination_by sizeOf record

/-- The condition of a record is that of its head, with each part read from its own record. -/
theorem condition_eq (registry : Registry) (record : Json) :
    registry.condition record =
      match registry.conditionHead record with
      | .error fault => .error fault
      | .ok (.leaf condition) => .ok condition
      | .ok (.negation inner) => (registry.condition inner).map .negation
      | .ok (.all items) => (items.mapM registry.condition).map .all
      | .ok (.any items) => (items.mapM registry.condition).map .any := by
  rw [condition]
  split <;> simp_all [List.mapM_subtype]

/-- The event of a record. A registered occurrence goes by its registered name. The scope that
the record gives wins over the registered one, and an occurrence that is not registered needs
one. -/
def event (registry : Registry) (record : Json) : Except Fault Event := do
  let (name, params) ← Record.nameAndParams .event Record.eventTag record
  let (scope, params) := Record.optional params "scope"
  let scope ← Record.option .event "scope" scope Scope.ofJson?
  let (condition, params) := Record.optional params "condition"
  Record.noneLeft .event name params
  let (name, scope) ←
    match Table.get? registry.events (RuleName.key name), scope with
    | some known, scope => .ok (known.name, scope.getD known.form)
    | none, some scope => .ok (name, scope)
    | none, none => .error (.unknownName .event name)
  match condition with
  | some condition => return { name, scope, condition := some (← registry.condition condition) }
  | none => return { name, scope }

def effect (registry : Registry) (record : Json) : Except Fault Effect := do
  let fields ← Record.fields .effect record
  let (event, fields) ← Record.required .effect fields "event"
  let event ← registry.event event
  let (action, fields) ← Record.required .effect fields "action"
  let action ← registry.action action
  let (targeting, fields) ← Record.required .effect fields "targeting"
  let targeting ← registry.targeting targeting
  Record.noneLeft .effect "effect" fields
  return { event, action, targeting }

def playerAura (registry : Registry) (record : Json) : Except Fault PlayerAura := do
  let fields ← Record.fields .aura record
  let (action, fields) ← Record.required .aura fields "action"
  let change ← registry.change action
  let (ending, fields) ← Record.required .aura fields "until"
  let ending ← registry.event ending
  Record.noneLeft .aura "player aura" fields
  return { change, ending }

def minionAura (registry : Registry) (record : Json) : Except Fault MinionAura := do
  let fields ← Record.fields .aura record
  let (action, fields) ← Record.required .aura fields "action"
  let change ← registry.change action
  let (selector, fields) ← Record.required .aura fields "selector"
  let selector ← registry.selector selector
  let (players, fields) := Record.optional fields "players"
  let players ← Record.option .aura "players" players Coverage.ofJson?
  let (removal, fields) := Record.optional fields "removal"
  let removal ← Record.option .aura "removal" removal RemovalPolicy.ofJson?
  Record.noneLeft .aura "minion aura" fields
  return { change, selector, players := players.getD .friendly,
           removal := removal.getD .snapshot }

end Registry

end CardEffects
