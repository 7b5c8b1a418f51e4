import CardEffects.Proofs.RecordFields

/-!
# Records of the built-in parts

The registry of the built-in parts, extended by occurrences only, and the records that its
readers take for actions, selectors, targetings and the heads of conditions.
-/

namespace CardEffects.Proofs

/-! ### The tables of a registry -/

def actionForm? : Part → Option ActionForm
  | .action form => some form
  | _ => none

def conditionForm? : Part → Option ConditionForm
  | .condition form => some form
  | _ => none

def selectorForm? : Part → Option SelectorForm
  | .selector form => some form
  | _ => none

def targetingForm? : Part → Option TargetingForm
  | .targeting form => some form
  | _ => none

def eventScope? : Part → Option Scope
  | .event scope => some scope
  | _ => none

/-- The built-in parts of one family, with their names. -/
def builtIn {form : Type} (form? : Part → Option form) : List (Registered form) :=
  Registry.standardParts.filterMap fun part => (form? part.2).map (Registered.mk part.1)

/-- Registered parts in a table, each under the key of its name. -/
def byKey {form : Type} (entries : List (Registered form)) : Table String (Registered form) :=
  entries.map fun entry => (RuleName.key entry.name, entry)

/-- Whether a registry has the built-in parts and, apart from occurrences, no others. -/
structure HasBuiltIns (registry : Registry) : Prop where
  actions : registry.actions = byKey (builtIn actionForm?)
  conditions : registry.conditions = byKey (builtIn conditionForm?)
  selectors : registry.selectors = byKey (builtIn selectorForm?)
  targetings : registry.targetings = byKey (builtIn targetingForm?)

lemma standard_hasBuiltIns : HasBuiltIns Registry.standard where
  actions := rfl
  conditions := rfl
  selectors := rfl
  targetings := rfl

lemma standard_events : Registry.standard.events = byKey (builtIn eventScope?) := rfl

lemma actions_nodup : (Table.keys (byKey (builtIn actionForm?))).Nodup := by decide

lemma conditions_nodup : (Table.keys (byKey (builtIn conditionForm?))).Nodup := by decide

lemma selectors_nodup : (Table.keys (byKey (builtIn selectorForm?))).Nodup := by decide

lemma targetings_nodup : (Table.keys (byKey (builtIn targetingForm?))).Nodup := by decide

/-- Whether the tag of a record is a spelling of a name. -/
def Tagged (fields : Fields) (name : String) : Prop :=
  ∃ written, Table.get? fields Record.typeTag = some (.str written) ∧
    RuleName.key written = RuleName.key name

lemma names_byKey {form : Type} {entries : List (Registered form)}
    (hnodup : (Table.keys (byKey entries)).Nodup) {fields : Fields} {entry : Registered form} :
    Names fields (byKey entries) entry ↔ entry ∈ entries ∧ Tagged fields entry.name := by
  constructor
  · rintro ⟨written, htag, hget⟩
    obtain ⟨entry', hmem, heq⟩ := List.mem_map.1 (mem_of_get? hget)
    obtain ⟨hkey, rfl⟩ := Prod.mk.inj heq
    exact ⟨hmem, written, htag, hkey.symm⟩
  · rintro ⟨hmem, written, htag, hkey⟩
    refine ⟨written, htag, get?_of_mem hnodup ?_⟩
    rw [hkey]
    exact List.mem_map.2 ⟨entry, hmem, rfl⟩

/-! ### What the readers take -/

def bareConditions : List (String × Condition) :=
  [("is_self", .isSelf), ("is_minion", .isMinion), ("is_hero", .isHero),
    ("focus_is_friendly", .focusIsFriendly)]

/-- The built-in selectors. None has parameters. -/
def bareSelectors : List (String × Selector) :=
  [("minion", .minion), ("not_self", .notSelf), ("damaged", .damaged), ("has_taunt", .hasTaunt),
    ("has_lowest_health", .hasLowestHealth)]

/-- The built-in targetings. None has parameters. -/
def bareTargetings : List (String × Targeting) :=
  [("self", .self), ("focus", .focus), ("other", .other), ("focus_or_self", .focusOrSelf),
    ("owner_hero", .ownerHero), ("opponent_hero", .opponentHero)]

lemma builtIn_selectors : builtIn selectorForm? =
    bareSelectors.map fun part => ⟨part.1, .constant part.2 .refused⟩ := rfl

lemma builtIn_targetings : builtIn targetingForm? =
    bareTargetings.map fun part => ⟨part.1, .constant part.2 .refused⟩ := rfl

lemma builtIn_conditions : builtIn conditionForm? =
    bareConditions.map (fun part => ⟨part.1, .constant part.2 .refused⟩) ++
      [⟨"amount_at_least", .amountAtLeast⟩, ⟨"not", .negation⟩, ⟨"and", .all⟩, ⟨"or", .any⟩] := rfl

/-- The built-in stat changes. All can be taken back. -/
def changeForms : List (String × ChangeForm) :=
  [("change_attack", .attack), ("change_health", .health), ("taunt", .constant .taunt .refused)]

lemma builtIn_actions : builtIn actionForm? =
    changeForms.map (fun part => ⟨part.1, .change part.2 true⟩) ++
      [⟨"damage", .damage⟩, ⟨"heal", .heal⟩] := rfl

/-- The fields of a record that is read as this one of some parts without parameters. -/
def BareFields {α : Type} (parts : List (String × α)) (fields : Fields) (part : α) : Prop :=
  Only fields [Record.typeTag] ∧ ∃ name, (name, part) ∈ parts ∧ Tagged fields name

/-- Whether a record's one field besides the tag has this name and this value. -/
def Sole (fields : Fields) (field : String) (value : Json) : Prop :=
  Table.erase fields Record.typeTag = [(field, value)]

/-- The fields of a record that is read as a condition with this head. -/
inductive HeadFields (fields : Fields) : ConditionHead → Prop
  | bare {condition : Condition} (h : BareFields bareConditions fields condition) :
      HeadFields fields (.leaf condition)
  | amountAtLeast {min : Amount} (htag : Tagged fields "amount_at_least")
      (hsole : Sole fields "min" min.toJson) : HeadFields fields (.leaf (.amountAtLeast min))
  | negation {inner : Json} (htag : Tagged fields "not")
      (honly : Only fields [Record.typeTag, "condition"])
      (hget : Table.get? fields "condition" = some inner) : HeadFields fields (.negation inner)
  | all {items : List Json} (htag : Tagged fields "and")
      (honly : Only fields [Record.typeTag, "conditions"])
      (hget : Table.get? fields "conditions" = some (.arr items)) : HeadFields fields (.all items)
  | any {items : List Json} (htag : Tagged fields "or")
      (honly : Only fields [Record.typeTag, "conditions"])
      (hget : Table.get? fields "conditions" = some (.arr items)) : HeadFields fields (.any items)

/-- The fields of a record that is read as this stat change. -/
inductive ChangeFields (fields : Fields) : StatChange → Prop
  | attack {amount : Amount} (htag : Tagged fields "change_attack")
      (hsole : Sole fields "amount" amount.toJson) : ChangeFields fields (.attack amount)
  | health {amount : Amount} (htag : Tagged fields "change_health")
      (hsole : Sole fields "amount" amount.toJson) : ChangeFields fields (.health amount)
  | taunt (htag : Tagged fields "taunt") (honly : Only fields [Record.typeTag]) :
      ChangeFields fields .taunt

/-- The fields of a record that is read as this action. -/
inductive ActionFields (fields : Fields) : Action → Prop
  | change {c : StatChange} (h : ChangeFields fields c) : ActionFields fields (.change c)
  | damage {amount : Amount} (htag : Tagged fields "damage")
      (hsole : Sole fields "amount" amount.toJson) : ActionFields fields (.damage amount)
  | heal {amount : Amount} (htag : Tagged fields "heal")
      (hsole : Sole fields "amount" amount.toJson) : ActionFields fields (.heal amount)

lemma soleAmount_eq_ok {α : Type} {family : Family} {name field : String} {fields : Fields}
    {build : Amount → α} {part : α} :
    (Record.soleParam family name field (Table.erase fields Record.typeTag) Json.amount?).map
        build = .ok part ↔
      ∃ amount, Sole fields field (Amount.toJson amount) ∧ build amount = part := by
  simp only [map_eq_ok, soleParam_eq_ok, amount?_eq_some]
  constructor
  · rintro ⟨amount, ⟨_, hsole, rfl⟩, hpart⟩
    exact ⟨amount, hsole, hpart⟩
  · rintro ⟨amount, hsole, hpart⟩
    exact ⟨amount, ⟨_, hsole, rfl⟩, hpart⟩

lemma changeFields_iff {fields : Fields} {change : StatChange} :
    ChangeFields fields change ↔
      ∃ part ∈ changeForms, Tagged fields part.1 ∧
        part.2.read part.1 (Table.erase fields Record.typeTag) = .ok change := by
  constructor
  · intro hfields
    cases hfields with
    | attack htag hsole =>
      exact ⟨("change_attack", .attack), by simp [changeForms], htag,
        soleAmount_eq_ok.2 ⟨_, hsole, rfl⟩⟩
    | health htag hsole =>
      exact ⟨("change_health", .health), by simp [changeForms], htag,
        soleAmount_eq_ok.2 ⟨_, hsole, rfl⟩⟩
    | taunt htag honly =>
      exact ⟨("taunt", .constant .taunt .refused), by simp [changeForms], htag,
        refused_eq_ok.2 ⟨only_erase.2 honly, rfl⟩⟩
  · rintro ⟨part, hpart, htag, hread⟩
    simp only [changeForms, List.mem_cons, List.not_mem_nil, or_false] at hpart
    rcases hpart with rfl | rfl | rfl
    · obtain ⟨amount, hsole, rfl⟩ := soleAmount_eq_ok.1 hread
      exact .attack htag hsole
    · obtain ⟨amount, hsole, rfl⟩ := soleAmount_eq_ok.1 hread
      exact .health htag hsole
    · obtain ⟨honly, rfl⟩ := refused_eq_ok.1 hread
      exact .taunt htag (only_erase.1 honly)

section Readers

variable {registry : Registry} (h : HasBuiltIns registry) {record : Json}

include h

lemma selector_iff {selector : Selector} :
    registry.selector record = .ok selector ↔
      ∃ fields, record = .obj fields ∧ BareFields bareSelectors fields selector := by
  simp only [selector_eq_ok, h.selectors, names_byKey selectors_nodup]
  simp only [builtIn_selectors]
  constructor
  · rintro ⟨fields, entry, rfl, ⟨hmem, htag⟩, hread⟩
    obtain ⟨part, hpart, rfl⟩ := List.mem_map.1 hmem
    obtain ⟨honly, rfl⟩ := refused_eq_ok.1 hread
    exact ⟨fields, rfl, only_erase.1 honly, part.1, hpart, htag⟩
  · rintro ⟨fields, rfl, honly, name, hpart, htag⟩
    exact ⟨fields, ⟨name, .constant selector .refused⟩, rfl, ⟨List.mem_map.2 ⟨_, hpart, rfl⟩, htag⟩,
      refused_eq_ok.2 ⟨only_erase.2 honly, rfl⟩⟩

lemma targeting_iff {targeting : Targeting} :
    registry.targeting record = .ok targeting ↔
      ∃ fields, record = .obj fields ∧ BareFields bareTargetings fields targeting := by
  simp only [targeting_eq_ok, h.targetings, names_byKey targetings_nodup]
  simp only [builtIn_targetings]
  constructor
  · rintro ⟨fields, entry, rfl, ⟨hmem, htag⟩, hread⟩
    obtain ⟨part, hpart, rfl⟩ := List.mem_map.1 hmem
    obtain ⟨honly, rfl⟩ := refused_eq_ok.1 hread
    exact ⟨fields, rfl, only_erase.1 honly, part.1, hpart, htag⟩
  · rintro ⟨fields, rfl, honly, name, hpart, htag⟩
    exact ⟨fields, ⟨name, .constant targeting .refused⟩, rfl,
      ⟨List.mem_map.2 ⟨_, hpart, rfl⟩, htag⟩, refused_eq_ok.2 ⟨only_erase.2 honly, rfl⟩⟩

lemma conditionHead_iff {head : ConditionHead} :
    registry.conditionHead record = .ok head ↔
      ∃ fields, record = .obj fields ∧ HeadFields fields head := by
  simp only [conditionHead_eq_ok, h.conditions, names_byKey conditions_nodup]
  simp only [builtIn_conditions, List.mem_append, List.mem_map]
  constructor
  · rintro ⟨fields, entry, rfl, ⟨⟨part, hpart, rfl⟩ | hmem, htag⟩, hread⟩
    · obtain ⟨honly, rfl⟩ := refused_eq_ok.1 hread
      exact ⟨fields, rfl, .bare ⟨only_erase.1 honly, part.1, hpart, htag⟩⟩
    · simp only [List.mem_cons, List.not_mem_nil, or_false] at hmem
      refine ⟨fields, rfl, ?_⟩
      rcases hmem with rfl | rfl | rfl | rfl
      · obtain ⟨min, hsole, rfl⟩ := soleAmount_eq_ok.1 hread
        exact .amountAtLeast htag hsole
      · simp only [ConditionForm.read, bind_eq_ok, Prod.exists, required_eq_ok, noneLeft_eq_ok,
          pure, Except.pure, Except.ok.injEq] at hread
        obtain ⟨inner, _, ⟨hget, rfl⟩, _, hleft, rfl⟩ := hread
        rw [Table.get?_erase_of_ne _ (by decide)] at hget
        exact .negation htag ((only_erase.1 (only_erase.1 hleft)).mono (by simp)) hget
      · obtain ⟨items, hitems, rfl⟩ := map_eq_ok.1 hread
        obtain ⟨hget, honly⟩ := conditionList_eq_ok.1 hitems
        rw [Table.get?_erase_of_ne _ (by decide)] at hget
        exact .all htag (only_erase.1 honly) hget
      · obtain ⟨items, hitems, rfl⟩ := map_eq_ok.1 hread
        obtain ⟨hget, honly⟩ := conditionList_eq_ok.1 hitems
        rw [Table.get?_erase_of_ne _ (by decide)] at hget
        exact .any htag (only_erase.1 honly) hget
  · rintro ⟨fields, rfl, hfields⟩
    cases hfields with
    | bare hbare =>
      obtain ⟨honly, name, hmem, htag⟩ := hbare
      exact ⟨fields, _, rfl, ⟨.inl ⟨_, hmem, rfl⟩, htag⟩,
        refused_eq_ok.2 ⟨only_erase.2 honly, rfl⟩⟩
    | amountAtLeast htag hsole =>
      exact ⟨fields, ⟨_, .amountAtLeast⟩, rfl, ⟨.inr (by simp), htag⟩,
        soleAmount_eq_ok.2 ⟨_, hsole, rfl⟩⟩
    | negation htag honly hget =>
      refine ⟨fields, ⟨_, .negation⟩, rfl, ⟨.inr (by simp), htag⟩, ?_⟩
      simp only [ConditionForm.read, bind_eq_ok, Prod.exists, required_eq_ok, noneLeft_eq_ok,
        pure, Except.pure, Except.ok.injEq]
      refine ⟨_, _, ⟨?_, rfl⟩, (), only_erase.2 (only_erase.2 (honly.mono (by simp))), rfl⟩
      rw [Table.get?_erase_of_ne _ (by decide)]
      exact hget
    | all htag honly hget =>
      refine ⟨fields, ⟨_, .all⟩, rfl, ⟨.inr (by simp), htag⟩, map_eq_ok.2 ⟨_, ?_, rfl⟩⟩
      refine conditionList_eq_ok.2 ⟨?_, only_erase.2 honly⟩
      rw [Table.get?_erase_of_ne _ (by decide)]
      exact hget
    | any htag honly hget =>
      refine ⟨fields, ⟨_, .any⟩, rfl, ⟨.inr (by simp), htag⟩, map_eq_ok.2 ⟨_, ?_, rfl⟩⟩
      refine conditionList_eq_ok.2 ⟨?_, only_erase.2 honly⟩
      rw [Table.get?_erase_of_ne _ (by decide)]
      exact hget

lemma change_iff {change : StatChange} :
    registry.change record = .ok change ↔
      ∃ fields, record = .obj fields ∧ ChangeFields fields change := by
  simp only [change_eq_ok, h.actions, names_byKey actions_nodup, changeFields_iff]
  simp only [builtIn_actions, List.mem_append, List.mem_map]
  constructor
  · rintro ⟨fields, entry, form, rfl, ⟨⟨part, hpart, rfl⟩ | hmem, htag⟩, hform, hread⟩
    · cases hform
      exact ⟨fields, rfl, part, hpart, htag, hread⟩
    · simp only [List.mem_cons, List.not_mem_nil, or_false] at hmem
      rcases hmem with rfl | rfl <;> cases hform
  · rintro ⟨fields, rfl, part, hpart, htag, hread⟩
    exact ⟨fields, _, part.2, rfl, ⟨.inl ⟨part, hpart, rfl⟩, htag⟩, rfl, hread⟩

lemma action_iff {action : Action} :
    registry.action record = .ok action ↔
      ∃ fields, record = .obj fields ∧ ActionFields fields action := by
  simp only [action_eq_ok, h.actions, names_byKey actions_nodup]
  simp only [builtIn_actions, List.mem_append, List.mem_map]
  constructor
  · rintro ⟨fields, entry, rfl, ⟨⟨part, hpart, rfl⟩ | hmem, htag⟩, hread⟩
    · obtain ⟨change, hchange, rfl⟩ := map_eq_ok.1 hread
      exact ⟨fields, rfl, .change (changeFields_iff.2 ⟨part, hpart, htag, hchange⟩)⟩
    · simp only [List.mem_cons, List.not_mem_nil, or_false] at hmem
      refine ⟨fields, rfl, ?_⟩
      rcases hmem with rfl | rfl
      · obtain ⟨amount, hsole, rfl⟩ := soleAmount_eq_ok.1 hread
        exact .damage htag hsole
      · obtain ⟨amount, hsole, rfl⟩ := soleAmount_eq_ok.1 hread
        exact .heal htag hsole
  · rintro ⟨fields, rfl, hfields⟩
    cases hfields with
    | change hchange =>
      obtain ⟨part, hpart, htag, hread⟩ := changeFields_iff.1 hchange
      exact ⟨fields, _, rfl, ⟨.inl ⟨part, hpart, rfl⟩, htag⟩, map_eq_ok.2 ⟨_, hread, rfl⟩⟩
    | damage htag hsole =>
      exact ⟨fields, ⟨_, .damage⟩, rfl, ⟨.inr (by simp), htag⟩,
        soleAmount_eq_ok.2 ⟨_, hsole, rfl⟩⟩
    | heal htag hsole =>
      exact ⟨fields, ⟨_, .heal⟩, rfl, ⟨.inr (by simp), htag⟩,
        soleAmount_eq_ok.2 ⟨_, hsole, rfl⟩⟩

lemma change_eq_ok_iff_action {change : StatChange} :
    registry.change record = .ok change ↔ registry.action record = .ok (.change change) := by
  rw [change_iff h, action_iff h]
  refine exists_congr fun fields => and_congr_right fun _ => ?_
  constructor
  · exact .change
  · intro hfields
    cases hfields
    assumption

end Readers

end CardEffects.Proofs
