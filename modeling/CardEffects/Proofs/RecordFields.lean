import CardEffects.Record.Reader
import CardEffects.Proofs.Tables
import Mathlib.Data.List.Forall2
import Mathlib.Data.List.Induction

/-!
# Fields of records

When a step of a reader succeeds and with what. A reader takes its fields out of the record one
by one and refuses what is left, so its steps together say which fields the record has: `Only`
bounds them from above, a look-up from below.
-/

namespace CardEffects.Proofs

/-! ### Readers one after another -/

section Sequences

variable {ε α β : Type}

lemma bind_eq_ok {x : Except ε α} {f : α → Except ε β} {b : β} :
    x >>= f = .ok b ↔ ∃ a, x = .ok a ∧ f a = .ok b := by
  cases x <;> simp [bind, Except.bind]

lemma map_eq_ok {x : Except ε α} {f : α → β} {b : β} :
    x.map f = .ok b ↔ ∃ a, x = .ok a ∧ f a = b := by
  cases x <;> simp [Except.map]

lemma mapM_eq_ok {f : α → Except ε β} {as : List α} {bs : List β} :
    as.mapM f = .ok bs ↔ List.Forall₂ (fun a b => f a = .ok b) as bs := by
  induction as generalizing bs with
  | nil => simp [pure, Except.pure, eq_comm (b := bs)]
  | cons a as ih =>
    simp only [List.mapM_cons, bind_eq_ok, ih, pure, Except.pure, Except.ok.injEq,
      List.forall₂_cons_left_iff]
    constructor
    · rintro ⟨b, hb, bs', hbs, rfl⟩
      exact ⟨b, bs', hb, hbs, rfl⟩
    · rintro ⟨b, bs', hb, hbs, rfl⟩
      exact ⟨b, hb, bs', hbs, rfl⟩

lemma exists_mapM_eq_ok {f : α → Except ε β} {as : List α} :
    (∃ bs, as.mapM f = .ok bs) ↔ ∀ a ∈ as, ∃ b, f a = .ok b := by
  simp only [mapM_eq_ok]
  induction as with
  | nil => simp
  | cons a as ih =>
    simp only [List.forall₂_cons_left_iff, List.forall_mem_cons, ← ih]
    constructor
    · rintro ⟨_, b, bs, hb, hbs, rfl⟩
      exact ⟨⟨b, hb⟩, bs, hbs⟩
    · rintro ⟨⟨b, hb⟩, bs, hbs⟩
      exact ⟨_, b, bs, hb, hbs, rfl⟩

end Sequences

/-! ### The names in use -/

/-- Whether a record has no fields but these. -/
def Only (fields : Fields) (names : List String) : Prop :=
  ∀ name ∈ Table.keys fields, name ∈ names

lemma only_nil {fields : Fields} : Only fields [] ↔ fields = [] := by
  cases fields with
  | nil => simp [Only, Table.keys]
  | cons field fields =>
    constructor
    · intro h
      exact (List.not_mem_nil (h field.1 List.mem_cons_self)).elim
    · intro h
      cases h

lemma only_erase {fields : Fields} {name : String} {names : List String} :
    Only (Table.erase fields name) names ↔ Only fields (name :: names) := by
  simp only [Only, Table.keys, Table.erase, List.mem_map, List.mem_filter, List.mem_cons,
    decide_eq_true_eq, forall_exists_index, and_imp]
  constructor
  · intro h _ field hfield rfl
    by_cases hname : field.1 = name
    · exact .inl hname
    · exact .inr (h _ field hfield hname rfl)
  · intro h _ field hfield hname rfl
    exact (h _ field hfield rfl).resolve_left hname

lemma Only.mono {fields : Fields} {names names' : List String} (h : Only fields names)
    (hsub : ∀ name ∈ names, name ∈ names') : Only fields names' :=
  fun name hname => hsub name (h name hname)

lemma Only.mem {fields : Fields} {names : List String} (h : Only fields names) {name : String}
    {value : Json} (hget : Table.get? fields name = some value) : name ∈ names :=
  h name (List.mem_map.2 ⟨_, mem_of_get? hget, rfl⟩)

lemma mem_keys_insert {fields : Fields} {name name' : String} {value : Json} :
    name' ∈ Table.keys (Fields.insert fields name value) ↔
      name' = name ∨ name' ∈ Table.keys fields := by
  induction fields with
  | nil => simp [Fields.insert, Table.keys]
  | cons field fields ih =>
    simp only [Table.keys] at ih ⊢
    unfold Fields.insert
    split
    · next h => simp [h]
    · split <;> simp [ih, or_left_comm]

lemma mem_keys_ofList {fields : List (String × Json)} {name : String} :
    name ∈ Table.keys (Fields.ofList fields) ↔ name ∈ fields.map (·.1) := by
  induction fields using List.reverseRecOn with
  | nil => simp [Fields.ofList, Table.keys]
  | append_singleton fields field ih =>
    simp only [Fields.ofList, List.foldl_append, List.foldl_cons, List.foldl_nil] at ih ⊢
    rw [mem_keys_insert, ih]
    simp [or_comm]

lemma get?_ofList {fields : List (String × Json)} {name : String} :
    Table.get? (Fields.ofList fields) name = Table.get? fields.reverse name := by
  induction fields using List.reverseRecOn with
  | nil => rfl
  | append_singleton fields field ih =>
    simp only [Fields.ofList, List.foldl_append, List.foldl_cons, List.foldl_nil,
      List.reverse_append, List.reverse_cons, List.reverse_nil, List.nil_append,
      List.singleton_append, Table.get?] at ih ⊢
    split
    · next h =>
      subst h
      exact Fields.get?_insert_self _ _ _
    · next h => rw [Fields.get?_insert_of_ne _ _ h, ih]

lemma erase_insert_self {fields : Fields} {name : String} {value : Json}
    (h : Table.get? fields name = none) :
    Table.erase (Fields.insert fields name value) name = fields := by
  induction fields with
  | nil => simp [Fields.insert, Table.erase]
  | cons field fields ih =>
    by_cases hname : field.1 = name
    · simp [Table.get?, hname] at h
    · have htail : Table.get? fields name = none := by simpa [Table.get?, hname] using h
      have herase : Table.erase fields name = fields := erase_eq_self htail
      unfold Fields.insert
      rw [if_neg hname]
      split
      · simpa [Table.erase, hname] using herase
      · simpa [Table.erase, hname] using ih htail

/-! ### The steps of a reader -/

lemma fields_eq_ok {family : Family} {record : Json} {fields : Fields} :
    Record.fields family record = .ok fields ↔ record = .obj fields := by
  cases record <;> simp [Record.fields]

lemma nameAndParams_eq_ok {family : Family} {tag : String} {record : Json} {written : String}
    {params : Fields} :
    Record.nameAndParams family tag record = .ok (written, params) ↔
      ∃ fields, record = .obj fields ∧ Table.get? fields tag = some (.str written) ∧
        params = Table.erase fields tag := by
  unfold Record.nameAndParams
  simp only [bind_eq_ok, fields_eq_ok]
  refine exists_congr fun fields => and_congr_right fun _ => ?_
  split
  · next name hget =>
    simp only [hget, Except.ok.injEq, Prod.mk.injEq, Option.some.injEq, Json.str.injEq]
    exact and_congr_right fun _ => eq_comm
  · next hnot hget =>
    simp only [hget, reduceCtorEq, Option.some.injEq, false_iff, not_and]
    intro h
    exact (hnot _ h).elim
  · next hget => simp [hget]

lemma required_eq_ok {family : Family} {params : Fields} {field : String} {value : Json}
    {rest : Fields} :
    Record.required family params field = .ok (value, rest) ↔
      Table.get? params field = some value ∧ rest = Table.erase params field := by
  unfold Record.required
  split
  · next found hget =>
    simp only [hget, Except.ok.injEq, Prod.mk.injEq, Option.some.injEq]
    exact and_congr_right fun _ => eq_comm
  · next hget => simp [hget]

lemma noneLeft_eq_ok {family : Family} {name : String} {params : Fields} {u : Unit} :
    Record.noneLeft family name params = .ok u ↔ Only params [] := by
  rw [only_nil, ← Fields.leastName?_eq_none]
  unfold Record.noneLeft
  split <;> simp_all

/-- What an optional field is given as. A field that holds `null` is not given. -/
def given (fields : Fields) (field : String) : Option Json :=
  (Table.get? fields field).filter (!·.isNull)

lemma given_eq_some {fields : Fields} {field : String} {value : Json} :
    given fields field = some value ↔ Table.get? fields field = some value ∧ value ≠ .null := by
  cases value <;> simp [given, Option.filter_eq_some_iff, Json.isNull]

lemma given_erase_of_ne {fields : Fields} {name field : String} (h : name ≠ field) :
    given (Table.erase fields name) field = given fields field := by
  unfold given
  rw [Table.get?_erase_of_ne _ h]

lemma option_eq_ok {α : Type} {family : Family} {field : String} {value : Option Json}
    {read : Json → Option α} {found : Option α} :
    Record.option family field value read = .ok found ↔ value.map read = found.map some := by
  unfold Record.option
  cases value with
  | none => cases found <;> simp
  | some value => cases hread : read value <;> cases found <;> simp [hread]

lemma soleParam_eq_ok {α : Type} {family : Family} {name field : String} {params : Fields}
    {read : Json → Option α} {part : α} :
    Record.soleParam family name field params read = .ok part ↔
      ∃ value, params = [(field, value)] ∧ read value = some part := by
  unfold Record.soleParam Json.soleField?
  match params with
  | [] => simp
  | [(name', value)] => by_cases h : name' = field <;> cases hread : read value <;> simp [h, hread]
  | _ :: _ :: _ => simp

lemma refused_eq_ok {α : Type} {family : Family} {name : String} {params : Fields}
    {part part' : α} :
    Leftover.refused.read family name params part = .ok part' ↔ Only params [] ∧ part = part' := by
  simp only [Leftover.read, map_eq_ok, noneLeft_eq_ok, exists_const]

lemma conditionList_eq_ok {name : String} {params : Fields} {items : List Json} :
    Record.conditionList name params = .ok items ↔
      Table.get? params "conditions" = some (.arr items) ∧ Only params ["conditions"] := by
  unfold Record.conditionList
  simp only [bind_eq_ok, Prod.exists, required_eq_ok, noneLeft_eq_ok]
  constructor
  · rintro ⟨value, _, ⟨hget, rfl⟩, _, hleft, hitems⟩
    split at hitems
    · cases hitems
      exact ⟨hget, only_erase.1 hleft⟩
    · cases hitems
  · rintro ⟨hget, honly⟩
    exact ⟨_, _, ⟨hget, rfl⟩, (), only_erase.2 honly, rfl⟩

lemma amount?_eq_some {value : Json} {amount : Amount} :
    value.amount? = some amount ↔ value = amount.toJson := by
  cases value with
  | int n =>
    simp only [Json.amount?, Amount.toJson, Json.int.injEq]
    constructor
    · intro h
      exact (Amount.val_of_ofInt? h).symm
    · rintro rfl
      exact amount.ofInt?_val
  | _ => simp [Json.amount?, Amount.toJson]

/-! ### Records with a tag -/

/-- Whether the tag of a record names an entry of a table. -/
def Names {form : Type} (fields : Fields) (table : Table String form) (entry : form) : Prop :=
  ∃ written, Table.get? fields Record.typeTag = some (.str written) ∧
    Table.get? table (RuleName.key written) = some entry

lemma find_eq_ok {form : Type} {table : Table String form} {family : Family} {name : String}
    {entry : form} :
    Registry.find table family name = .ok entry ↔
      Table.get? table (RuleName.key name) = some entry := by
  unfold Registry.find
  split <;> simp_all

lemma tagged_eq_ok {form α : Type} (family : Family) (table : Table String form)
    (read : form → Fields → Except Fault α) {record : Json} {part : α} :
    (do
      let (written, params) ← Record.nameAndParams family Record.typeTag record
      let entry ← Registry.find table family written
      read entry params) = .ok part ↔
    ∃ fields entry, record = .obj fields ∧ Names fields table entry ∧
      read entry (Table.erase fields Record.typeTag) = .ok part := by
  simp only [bind_eq_ok, Prod.exists, nameAndParams_eq_ok, find_eq_ok]
  constructor
  · rintro ⟨written, _, ⟨fields, rfl, htag, rfl⟩, entry, hentry, hread⟩
    exact ⟨fields, entry, rfl, ⟨written, htag, hentry⟩, hread⟩
  · rintro ⟨fields, entry, rfl, ⟨written, htag, hentry⟩, hread⟩
    exact ⟨written, _, ⟨fields, rfl, htag, rfl⟩, entry, hentry, hread⟩

section Readers

variable {registry : Registry} {record : Json}

lemma action_eq_ok {action : Action} :
    registry.action record = .ok action ↔
      ∃ fields entry, record = .obj fields ∧ Names fields registry.actions entry ∧
        entry.form.read entry.name (Table.erase fields Record.typeTag) = .ok action :=
  tagged_eq_ok .action registry.actions fun entry params => entry.form.read entry.name params

lemma selector_eq_ok {selector : Selector} :
    registry.selector record = .ok selector ↔
      ∃ fields entry, record = .obj fields ∧ Names fields registry.selectors entry ∧
        entry.form.read entry.name (Table.erase fields Record.typeTag) = .ok selector :=
  tagged_eq_ok .selector registry.selectors fun entry params => entry.form.read entry.name params

lemma targeting_eq_ok {targeting : Targeting} :
    registry.targeting record = .ok targeting ↔
      ∃ fields entry, record = .obj fields ∧ Names fields registry.targetings entry ∧
        entry.form.read entry.name (Table.erase fields Record.typeTag) = .ok targeting :=
  tagged_eq_ok .targeting registry.targetings fun entry params => entry.form.read entry.name params

lemma conditionHead_eq_ok {head : ConditionHead} :
    registry.conditionHead record = .ok head ↔
      ∃ fields entry, record = .obj fields ∧ Names fields registry.conditions entry ∧
        entry.form.read entry.name (Table.erase fields Record.typeTag) = .ok head :=
  tagged_eq_ok .condition registry.conditions fun entry params => entry.form.read entry.name params

lemma change_eq_ok {change : StatChange} :
    registry.change record = .ok change ↔
      ∃ fields entry form, record = .obj fields ∧ Names fields registry.actions entry ∧
        entry.form = .change form true ∧
        form.read entry.name (Table.erase fields Record.typeTag) = .ok change := by
  unfold Registry.change
  simp only [bind_eq_ok, Prod.exists, nameAndParams_eq_ok, find_eq_ok]
  constructor
  · rintro ⟨written, _, ⟨fields, rfl, htag, rfl⟩, entry, hentry, hread⟩
    split at hread
    · next form hform => exact ⟨fields, entry, form, rfl, ⟨written, htag, hentry⟩, hform, hread⟩
    · cases hread
  · rintro ⟨fields, entry, form, rfl, ⟨written, htag, hentry⟩, hform, hread⟩
    refine ⟨written, _, ⟨fields, rfl, htag, rfl⟩, entry, hentry, ?_⟩
    rw [hform]
    exact hread

/-! ### Events -/

/-- What an event record says about the occurrence: its name and the scope of the event. -/
def occurrence (registry : Registry) (written : String) (scope : Option Scope) :
    Except Fault (String × Scope) :=
  match Table.get? registry.events (RuleName.key written), scope with
  | some known, scope => .ok (known.name, scope.getD known.form)
  | none, some scope => .ok (written, scope)
  | none, none => .error (.unknownName .event written)

lemma event_run (registry : Registry) (record : Json) :
    registry.event record = (do
      let (written, params) ← Record.nameAndParams .event Record.eventTag record
      let scope ← Record.option .event "scope" (given params "scope") Scope.ofJson?
      Record.noneLeft .event written (Table.erase (Table.erase params "scope") "condition")
      let found ← occurrence registry written scope
      let condition ← (given (Table.erase params "scope") "condition").mapM registry.condition
      return { name := found.1, scope := found.2, condition }) := by
  unfold Registry.event occurrence given
  refine bind_congr fun found => bind_congr fun scope => bind_congr fun _ => ?_
  cases (Table.get? (Table.erase found.2 "scope") "condition").filter (!·.isNull) with
  | none =>
    cases Table.get? registry.events (RuleName.key found.1) <;> cases scope <;> simp
  | some condition =>
    cases hread : registry.condition condition <;>
      cases Table.get? registry.events (RuleName.key found.1) <;> cases scope <;>
        simp [hread]

/-- The registered spelling of a name, or the name itself if it is not registered. -/
def spelled (registry : Registry) (written : String) : String :=
  ((Table.get? registry.events (RuleName.key written)).map (·.name)).getD written

/-- The scope that a name is registered with. -/
def registeredScope (registry : Registry) (written : String) : Option Scope :=
  (Table.get? registry.events (RuleName.key written)).map (·.form)

lemma occurrence_eq_ok {written name : String} {scope : Option Scope} {scope' : Scope} :
    occurrence registry written scope = .ok (name, scope') ↔
      name = spelled registry written ∧
        scope.or (registeredScope registry written) = some scope' := by
  unfold occurrence spelled registeredScope
  cases Table.get? registry.events (RuleName.key written) <;> cases scope <;>
    simp [eq_comm (a := name)]

lemma event_eq_ok {event : Event} :
    registry.event record = .ok event ↔
      ∃ (fields : Fields) (written : String) (scope : Option Scope), record = .obj fields ∧
        Table.get? fields Record.eventTag = some (.str written) ∧
        Only fields [Record.eventTag, "scope", "condition"] ∧
        (given fields "scope").map Scope.ofJson? = scope.map some ∧
        event.name = spelled registry written ∧
        scope.or (registeredScope registry written) = some event.scope ∧
        (given fields "condition").mapM registry.condition = .ok event.condition := by
  have hscope : Record.eventTag ≠ "scope" := by decide
  have hcondition : Record.eventTag ≠ "condition" := by decide
  have hboth : "scope" ≠ "condition" := by decide
  rw [event_run]
  simp only [bind_eq_ok, Prod.exists, nameAndParams_eq_ok, noneLeft_eq_ok, option_eq_ok, pure,
    Except.pure, Except.ok.injEq]
  constructor
  · rintro ⟨written, _, ⟨fields, rfl, htag, rfl⟩, scope, hread, _, hleft, name, scope', hfound,
      condition, hcond, rfl⟩
    rw [given_erase_of_ne hscope] at hread
    rw [given_erase_of_ne hboth, given_erase_of_ne hcondition] at hcond
    rw [only_erase, only_erase, only_erase] at hleft
    obtain ⟨hname, hscope'⟩ := occurrence_eq_ok.1 hfound
    exact ⟨fields, written, scope, rfl, htag, hleft.mono (by simp), hread, hname, hscope', hcond⟩
  · rintro ⟨fields, written, scope, rfl, htag, honly, hread, hname, hscope', hcond⟩
    refine ⟨written, _, ⟨fields, rfl, htag, rfl⟩, scope, ?_, (), ?_, event.name, event.scope,
      occurrence_eq_ok.2 ⟨hname, hscope'⟩, event.condition, ?_, rfl⟩
    · rw [given_erase_of_ne hscope]
      exact hread
    · rw [only_erase, only_erase, only_erase]
      exact honly.mono (by simp)
    · rw [given_erase_of_ne hboth, given_erase_of_ne hcondition]
      exact hcond

/-! ### Effects and auras -/

/-- Whether a record has a field whose value is as stated. -/
def Holds (fields : Fields) (field : String) (p : Json → Prop) : Prop :=
  ∃ value, Table.get? fields field = some value ∧ p value

lemma effect_eq_ok {effect : Effect} :
    registry.effect record = .ok effect ↔
      ∃ fields, record = .obj fields ∧ Only fields ["event", "action", "targeting"] ∧
        Holds fields "event" (registry.event · = .ok effect.event) ∧
        Holds fields "action" (registry.action · = .ok effect.action) ∧
        Holds fields "targeting" (registry.targeting · = .ok effect.targeting) ∧
        effect.active = none := by
  unfold Registry.effect Holds
  simp only [bind_eq_ok, Prod.exists, fields_eq_ok, required_eq_ok, noneLeft_eq_ok, pure,
    Except.pure, Except.ok.injEq]
  constructor
  · rintro ⟨fields, rfl, event, _, ⟨hevent, rfl⟩, e, he, action, _, ⟨haction, rfl⟩, a, ha,
      targeting, _, ⟨htargeting, rfl⟩, t, ht, _, hleft, rfl⟩
    rw [only_erase, only_erase, only_erase] at hleft
    rw [Table.get?_erase_of_ne _ (by decide)] at haction
    rw [Table.get?_erase_of_ne _ (by decide), Table.get?_erase_of_ne _ (by decide)] at htargeting
    exact ⟨fields, rfl, hleft.mono (by simp), ⟨event, hevent, he⟩, ⟨action, haction, ha⟩,
      ⟨targeting, htargeting, ht⟩, rfl⟩
  · rintro ⟨fields, rfl, honly, ⟨event, hevent, he⟩, ⟨action, haction, ha⟩,
      ⟨targeting, htargeting, ht⟩, hactive⟩
    refine ⟨fields, rfl, event, _, ⟨hevent, rfl⟩, effect.event, he, action, _, ⟨?_, rfl⟩,
      effect.action, ha, targeting, _, ⟨?_, rfl⟩, effect.targeting, ht, (), ?_, ?_⟩
    · rw [Table.get?_erase_of_ne _ (by decide)]
      exact haction
    · rw [Table.get?_erase_of_ne _ (by decide), Table.get?_erase_of_ne _ (by decide)]
      exact htargeting
    · rw [only_erase, only_erase, only_erase]
      exact honly.mono (by simp)
    · rw [← hactive]

lemma playerAura_eq_ok {aura : PlayerAura} :
    registry.playerAura record = .ok aura ↔
      ∃ fields, record = .obj fields ∧ Only fields ["action", "until"] ∧
        Holds fields "action" (registry.change · = .ok aura.change) ∧
        Holds fields "until" (registry.event · = .ok aura.ending) ∧ aura.active = none := by
  unfold Registry.playerAura Holds
  simp only [bind_eq_ok, Prod.exists, fields_eq_ok, required_eq_ok, noneLeft_eq_ok, pure,
    Except.pure, Except.ok.injEq]
  constructor
  · rintro ⟨fields, rfl, action, _, ⟨haction, rfl⟩, c, hc, ending, _, ⟨hending, rfl⟩, e, he, _,
      hleft, rfl⟩
    rw [only_erase, only_erase] at hleft
    rw [Table.get?_erase_of_ne _ (by decide)] at hending
    exact ⟨fields, rfl, hleft.mono (by simp), ⟨action, haction, hc⟩, ⟨ending, hending, he⟩, rfl⟩
  · rintro ⟨fields, rfl, honly, ⟨action, haction, hc⟩, ⟨ending, hending, he⟩, hactive⟩
    refine ⟨fields, rfl, action, _, ⟨haction, rfl⟩, aura.change, hc, ending, _, ⟨?_, rfl⟩,
      aura.ending, he, (), ?_, ?_⟩
    · rw [Table.get?_erase_of_ne _ (by decide)]
      exact hending
    · rw [only_erase, only_erase]
      exact honly.mono (by simp)
    · rw [← hactive]

lemma minionAura_eq_ok {aura : MinionAura} :
    registry.minionAura record = .ok aura ↔
      ∃ (fields : Fields) (players : Option Coverage) (removal : Option RemovalPolicy),
        record = .obj fields ∧ Only fields ["action", "selector", "players", "removal"] ∧
        Holds fields "action" (registry.change · = .ok aura.change) ∧
        Holds fields "selector" (registry.selector · = .ok aura.selector) ∧
        (given fields "players").map Coverage.ofJson? = players.map some ∧
        (given fields "removal").map RemovalPolicy.ofJson? = removal.map some ∧
        players.getD .friendly = aura.players ∧ removal.getD .snapshot = aura.removal ∧
        aura.active = none := by
  unfold Registry.minionAura Holds
  simp only [bind_eq_ok, Prod.exists, fields_eq_ok, required_eq_ok, noneLeft_eq_ok,
    Record.optional, option_eq_ok, pure, Except.pure, Except.ok.injEq]
  constructor
  · rintro ⟨fields, rfl, action, _, ⟨haction, rfl⟩, c, hc, selector, _, ⟨hselector, rfl⟩, s, hs,
      players, hplayers, removal, hremoval, _, hleft, rfl⟩
    rw [only_erase, only_erase, only_erase, only_erase] at hleft
    rw [Table.get?_erase_of_ne _ (by decide)] at hselector
    rw [Table.get?_erase_of_ne _ (by decide), Table.get?_erase_of_ne _ (by decide)] at hplayers
    rw [Table.get?_erase_of_ne _ (by decide), Table.get?_erase_of_ne _ (by decide),
      Table.get?_erase_of_ne _ (by decide)] at hremoval
    exact ⟨fields, players, removal, rfl, hleft.mono (by simp), ⟨action, haction, hc⟩,
      ⟨selector, hselector, hs⟩, hplayers, hremoval, rfl, rfl, rfl⟩
  · rintro ⟨fields, players, removal, rfl, honly, ⟨action, haction, hc⟩,
      ⟨selector, hselector, hs⟩, hplayers, hremoval, hp, hr, hactive⟩
    refine ⟨fields, rfl, action, _, ⟨haction, rfl⟩, aura.change, hc, selector, _, ⟨?_, rfl⟩,
      aura.selector, hs, players, ?_, removal, ?_, (), ?_, ?_⟩
    · rw [Table.get?_erase_of_ne _ (by decide)]
      exact hselector
    · rw [Table.get?_erase_of_ne _ (by decide), Table.get?_erase_of_ne _ (by decide)]
      exact hplayers
    · rw [Table.get?_erase_of_ne _ (by decide), Table.get?_erase_of_ne _ (by decide),
        Table.get?_erase_of_ne _ (by decide)]
      exact hremoval
    · rw [only_erase, only_erase, only_erase, only_erase]
      exact honly.mono (by simp)
    · rw [hp, hr, ← hactive]

end Readers

end CardEffects.Proofs
