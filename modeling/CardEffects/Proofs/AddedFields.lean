import CardEffects.Proofs.RecordGrammar

/-!
# Fields beyond the grammar

A record to which a field is added, in itself or in a record at any depth of it. Readers that
accept the record refuse it with the added field, unless the grammar has a place for the field
that the record leaves empty.
-/

namespace CardEffects.Proofs

/-- The fields that a record may leave out: two of an event, two of a minion aura. -/
def optionalNames (fields : Fields) : List String :=
  if Table.contains fields Record.eventTag then ["scope", "condition"]
  else if Table.contains fields "selector" then ["players", "removal"]
  else []

/-- Whether one value is another with a field added somewhere that is neither in use nor left
out there. -/
inductive Extended : Json → Json → Prop
  | here {fields : Fields} {name : String} {value : Json}
      (habsent : Table.get? fields name = none) (hname : name ∉ optionalNames fields) :
      Extended (.obj fields) (.obj (Fields.insert fields name value))
  | field {fields : Fields} {name : String} {inner inner' : Json}
      (hget : Table.get? fields name = some inner) (hinner : Extended inner inner') :
      Extended (.obj fields) (.obj (Fields.insert fields name inner'))
  | item {before after : List Json} {inner inner' : Json} (hinner : Extended inner inner') :
      Extended (.arr (before ++ inner :: after)) (.arr (before ++ inner' :: after))

/-- Whether a value is a string or a number, which no field can be added to. -/
def IsScalar (value : Json) : Prop :=
  (∃ text, value = .str text) ∨ ∃ n, value = .int n

lemma IsScalar.not_extended {value value' : Json} (h : IsScalar value) :
    ¬ Extended value value' := by
  intro hext
  rcases h with ⟨text, rfl⟩ | ⟨n, rfl⟩ <;> cases hext

/-! ### The names in use -/

lemma mem_keys_of_get? {fields : Fields} {name : String} {value : Json}
    (h : Table.get? fields name = some value) : name ∈ Table.keys fields :=
  List.mem_map.2 ⟨_, mem_of_get? h, rfl⟩

/-- Whether the names in a record are the tag and the parameters that go with it. -/
def Shaped (params : String → List String) (fields : Fields) : Prop :=
  ∃ written, Table.get? fields Record.typeTag = some (.str written) ∧
    ∀ name, name ∈ Table.keys fields ↔ name ∈ Record.typeTag :: params (RuleName.key written)

lemma Shaped.not_insert {params : String → List String} {fields : Fields} {name : String}
    {value : Json} (h : Shaped params fields) (habsent : Table.get? fields name = none) :
    ¬ Shaped params (Fields.insert fields name value) := by
  rintro ⟨written', htag', hkeys'⟩
  obtain ⟨written, htag, hkeys⟩ := h
  have hne : name ≠ Record.typeTag := by
    rintro rfl
    rw [habsent] at htag
    cases htag
  rw [Fields.get?_insert_of_ne _ _ hne, htag] at htag'
  cases htag'
  have hmem : name ∈ Table.keys fields :=
    (hkeys name).2 ((hkeys' name).1 (mem_keys_insert.2 (.inl rfl)))
  exact get?_eq_none_of_not_mem.1 habsent hmem

lemma shaped_of_only {params : String → List String} {fields : Fields} {name : String}
    (htag : Tagged fields name) (honly : Only fields (Record.typeTag :: params (RuleName.key name)))
    (hparams : ∀ param ∈ params (RuleName.key name), param ∈ Table.keys fields) :
    Shaped params fields := by
  obtain ⟨written, hget, hkey⟩ := htag
  refine ⟨written, hget, fun field => ?_⟩
  rw [hkey]
  constructor
  · exact honly field
  · intro hfield
    cases List.mem_cons.1 hfield with
    | inl heq => exact heq ▸ mem_keys_of_get? hget
    | inr hmem => exact hparams field hmem

lemma Sole.only {fields : Fields} {field : String} {value : Json} (h : Sole fields field value) :
    Only fields [Record.typeTag, field] := by
  rw [← only_erase, h]
  simp [Only, Table.keys]

lemma Sole.get? {fields : Fields} {field : String} {value : Json} (h : Sole fields field value)
    (hne : Record.typeTag ≠ field) : Table.get? fields field = some value := by
  rw [← Table.get?_erase_of_ne _ hne, h]
  simp [Table.get?]

lemma Tagged.scalar {fields : Fields} {name : String} {value : Json} (h : Tagged fields name)
    (hget : Table.get? fields Record.typeTag = some value) : IsScalar value := by
  obtain ⟨written, htag, -⟩ := h
  rw [htag] at hget
  cases hget
  exact .inl ⟨written, rfl⟩

lemma Sole.scalar {fields : Fields} {name field key : String} {n : Int} {value : Json}
    (h : Sole fields field (.int n)) (hne : Record.typeTag ≠ field) (htag : Tagged fields name)
    (hget : Table.get? fields key = some value) : IsScalar value := by
  have hkey := h.only.mem hget
  simp only [List.mem_cons, List.not_mem_nil, or_false] at hkey
  rcases hkey with rfl | rfl
  · exact htag.scalar hget
  · rw [h.get? hne] at hget
    cases hget
    exact .inr ⟨n, rfl⟩

lemma Only.scalar {fields : Fields} {name key : String} {value : Json}
    (h : Only fields [Record.typeTag]) (htag : Tagged fields name)
    (hget : Table.get? fields key = some value) : IsScalar value := by
  have hkey := h.mem hget
  simp only [List.mem_cons, List.not_mem_nil, or_false] at hkey
  subst hkey
  exact htag.scalar hget

lemma Sole.shaped {params : String → List String} {fields : Fields} {name field : String}
    {value : Json} (h : Sole fields field value) (hne : Record.typeTag ≠ field)
    (htag : Tagged fields name) (hparams : params (RuleName.key name) = [field]) :
    Shaped params fields := by
  refine shaped_of_only htag ?_ ?_ <;> rw [hparams]
  · exact h.only
  · exact List.forall_mem_singleton.2 (mem_keys_of_get? (h.get? hne))

/-! ### Records without records in them -/

/-- The parameters of an action, by the key of its name. -/
def actionParams (key : String) : List String :=
  if key = RuleName.key "taunt" then [] else ["amount"]

lemma ChangeFields.shaped {fields : Fields} {c : StatChange} (h : ChangeFields fields c) :
    Shaped actionParams fields := by
  cases h with
  | attack htag hsole => exact hsole.shaped (by decide) htag rfl
  | health htag hsole => exact hsole.shaped (by decide) htag rfl
  | taunt htag honly => exact shaped_of_only htag honly (List.forall_mem_nil _)

lemma ChangeFields.scalar {fields : Fields} {c : StatChange} (h : ChangeFields fields c)
    {key : String} {value : Json} (hget : Table.get? fields key = some value) :
    IsScalar value := by
  cases h with
  | attack htag hsole => exact Sole.scalar hsole (by decide) htag hget
  | health htag hsole => exact Sole.scalar hsole (by decide) htag hget
  | taunt htag honly => exact honly.scalar htag hget

lemma ActionFields.shaped {fields : Fields} {action : Action} (h : ActionFields fields action) :
    Shaped actionParams fields := by
  cases h with
  | change hchange => exact hchange.shaped
  | damage htag hsole => exact hsole.shaped (by decide) htag rfl
  | heal htag hsole => exact hsole.shaped (by decide) htag rfl

lemma ActionFields.scalar {fields : Fields} {action : Action} (h : ActionFields fields action)
    {key : String} {value : Json} (hget : Table.get? fields key = some value) :
    IsScalar value := by
  cases h with
  | change hchange => exact hchange.scalar hget
  | damage htag hsole => exact Sole.scalar hsole (by decide) htag hget
  | heal htag hsole => exact Sole.scalar hsole (by decide) htag hget

lemma BareFields.shaped {α : Type} {parts : List (String × α)} {fields : Fields} {part : α}
    (h : BareFields parts fields part) : Shaped (fun _ => []) fields := by
  obtain ⟨honly, name, -, htag⟩ := h
  exact shaped_of_only htag honly (List.forall_mem_nil _)

lemma BareFields.scalar {α : Type} {parts : List (String × α)} {fields : Fields} {part : α}
    (h : BareFields parts fields part) {key : String} {value : Json}
    (hget : Table.get? fields key = some value) : IsScalar value := by
  obtain ⟨honly, name, -, htag⟩ := h
  exact honly.scalar htag hget

/-- A reader of records whose names are settled by the tag and that hold no records refuses
every added field. -/
lemma leaf_refused {α : Type} {read : Json → Except Fault α} {q : Fields → α → Prop}
    {params : String → List String}
    (hread : ∀ {record part}, read record = .ok part ↔
      ∃ fields, record = .obj fields ∧ q fields part)
    (hshaped : ∀ {fields part}, q fields part → Shaped params fields)
    (hscalar : ∀ {fields part}, q fields part → ∀ {key value},
      Table.get? fields key = some value → IsScalar value)
    {record record' : Json} (hext : Extended record record') (h : Accepts read record) :
    ¬ Accepts read record' := by
  obtain ⟨part, hpart⟩ := h
  obtain ⟨fields, rfl, hfields⟩ := hread.1 hpart
  rintro ⟨part', hpart'⟩
  obtain ⟨fields', rfl, hfields'⟩ := hread.1 hpart'
  cases hext with
  | here habsent _ => exact (hshaped hfields).not_insert habsent (hshaped hfields')
  | field hget hinner => exact (hscalar hfields hget).not_extended hinner

/-! ### Conditions -/

/-- The parameters of a condition, by the key of its name. -/
def conditionParams (key : String) : List String :=
  if key = RuleName.key "amount_at_least" then ["min"]
  else if key = RuleName.key "not" then ["condition"]
  else if key = RuleName.key "and" ∨ key = RuleName.key "or" then ["conditions"]
  else []

def AreConditions (value : Json) : Prop :=
  ∃ items, value = .arr items ∧ ∀ item ∈ items, IsCondition item

lemma isCondition_shaped {fields : Fields} (h : IsCondition (.obj fields)) :
    Shaped conditionParams fields := by
  cases h with
  | bare hname htag honly =>
    simp only [List.mem_cons, List.not_mem_nil, or_false] at hname
    rcases hname with rfl | rfl | rfl | rfl <;>
      exact shaped_of_only htag honly (List.forall_mem_nil _)
  | amountAtLeast htag hsole _ => exact hsole.shaped (by decide) htag rfl
  | negation htag honly hget _ =>
    exact shaped_of_only htag honly (List.forall_mem_singleton.2 (mem_keys_of_get? hget))
  | connective hname htag honly hget _ =>
    simp only [List.mem_cons, List.not_mem_nil, or_false] at hname
    rcases hname with rfl | rfl <;>
      exact shaped_of_only htag honly (List.forall_mem_singleton.2 (mem_keys_of_get? hget))

lemma isCondition_field {fields : Fields} (h : IsCondition (.obj fields)) {key : String}
    {value : Json} (hget : Table.get? fields key = some value) :
    IsScalar value ∨ (key = "condition" ∧ IsCondition value) ∨
      (key = "conditions" ∧ AreConditions value) := by
  cases h with
  | bare hname htag honly => exact .inl (honly.scalar htag hget)
  | amountAtLeast htag hsole _ => exact .inl (hsole.scalar (by decide) htag hget)
  | negation htag honly hcondition hinner =>
    have hkey := honly.mem hget
    simp only [List.mem_cons, List.not_mem_nil, or_false] at hkey
    rcases hkey with rfl | rfl
    · exact .inl (htag.scalar hget)
    · rw [hcondition] at hget
      cases hget
      exact .inr (.inl ⟨rfl, hinner⟩)
  | connective hname htag honly hconditions hitems =>
    have hkey := honly.mem hget
    simp only [List.mem_cons, List.not_mem_nil, or_false] at hkey
    rcases hkey with rfl | rfl
    · exact .inl (htag.scalar hget)
    · rw [hconditions] at hget
      cases hget
      exact .inr (.inr ⟨rfl, _, rfl, hitems⟩)

/-! ### Every reader -/

/-- What may be expected of a value in a record: that a reader accepts it, that it lists
conditions, or that it is one of some names. -/
inductive Place where
  | action
  | change
  | selector
  | targeting
  | condition
  | conditions
  | choice (names : List String)
  | event
  | effect
  | playerAura
  | minionAura

/-- Whether a value is what is expected of it. -/
def Place.Fits (registry : Registry) : Place → Json → Prop
  | .action => Accepts registry.action
  | .change => Accepts registry.change
  | .selector => Accepts registry.selector
  | .targeting => Accepts registry.targeting
  | .condition => Accepts registry.condition
  | .conditions => AreConditions
  | .choice names => IsChoice names
  | .event => Accepts registry.event
  | .effect => Accepts registry.effect
  | .playerAura => Accepts registry.playerAura
  | .minionAura => Accepts registry.minionAura

/-- Whether a value no longer fits any place after a change. -/
def Misfit (registry : Registry) (value value' : Json) : Prop :=
  ∀ place : Place, place.Fits registry value → ¬ place.Fits registry value'

section Fields

variable {fields : Fields} {name : String} {inner inner' : Json} {p : Json → Prop}

lemma Holds.not_absent (h : Holds fields name p) : Table.get? fields name ≠ none := by
  obtain ⟨value, hget, -⟩ := h
  rw [hget]
  exact Option.some_ne_none value

lemma Holds.not_insert (h : Holds fields name p) (hget : Table.get? fields name = some inner)
    (hno : p inner → ¬ p inner') : ¬ Holds (Fields.insert fields name inner') name p := by
  obtain ⟨value, hvalue, hp⟩ := h
  rw [hget] at hvalue
  cases hvalue
  rintro ⟨value', hvalue', hp'⟩
  rw [Fields.get?_insert_self] at hvalue'
  cases hvalue'
  exact hno hp hp'

lemma Allows.not_insert (h : Allows fields name p) (hget : Table.get? fields name = some inner)
    (hext : Extended inner inner') (hno : p inner → ¬ p inner') :
    ¬ Allows (Fields.insert fields name inner') name p := by
  intro h'
  have hnull : inner ≠ .null := by
    rintro rfl
    cases hext
  have hnull' : inner' ≠ .null := by
    rintro rfl
    cases hext
  exact hno (h inner (given_eq_some.2 ⟨hget, hnull⟩))
    (h' inner' (given_eq_some.2 ⟨Fields.get?_insert_self _ _ _, hnull'⟩))

end Fields

lemma isChoice_refused {names : List String} {record record' : Json}
    (hext : Extended record record') (hrecord : IsChoice names record) :
    ¬ IsChoice names record' := by
  obtain ⟨name, -, rfl | rfl⟩ := hrecord
  · cases hext
  · rintro ⟨name', -, hname'⟩
    cases hext with
    | @here _ key value habsent _ =>
      have hne : name ≠ key := by
        rintro rfl
        simp [Table.get?] at habsent
      simp only [Fields.insert, hne, if_false] at hname'
      split at hname' <;> simp at hname'
    | field hget hinner =>
      have hnull := mem_of_get? hget
      simp only [List.mem_singleton, Prod.mk.injEq] at hnull
      rw [hnull.2] at hinner
      cases hinner

section Refusals

variable {registry : Registry}

lemma misfit_reversible (h : HasBuiltIns registry) {value value' : Json}
    (hmisfit : Misfit registry value value') (hvalue : IsReversible registry value) :
    ¬ IsReversible registry value' := by
  intro hvalue'
  simp only [IsReversible, ← change_eq_ok_iff_action h] at hvalue hvalue'
  exact hmisfit .change hvalue hvalue'

variable {fields : Fields} {name : String} {value inner inner' : Json}

lemma isCondition_refused_here (hcondition : IsCondition (.obj fields))
    (habsent : Table.get? fields name = none) :
    ¬ IsCondition (.obj (Fields.insert fields name value)) := by
  intro hcondition'
  exact (isCondition_shaped hcondition).not_insert habsent (isCondition_shaped hcondition')

lemma isEvent_refused_here (hevent : IsEvent registry (.obj fields))
    (habsent : Table.get? fields name = none) (hname : name ∉ optionalNames fields) :
    ¬ IsEvent registry (.obj (Fields.insert fields name value)) := by
  rintro ⟨-, honly', -⟩
  cases hevent with
  | intro htag honly =>
    have hmem := honly' name (mem_keys_insert.2 (.inl rfl))
    simp only [List.mem_cons, List.not_mem_nil, or_false] at hmem
    rcases hmem with rfl | hmem
    · rw [habsent] at htag
      cases htag
    · have hoptional : optionalNames fields = ["scope", "condition"] := by
        simp [optionalNames, Table.contains, htag]
      rw [hoptional] at hname
      exact hname (by simpa using hmem)

lemma isEffect_refused_here (heffect : IsEffect registry (.obj fields))
    (habsent : Table.get? fields name = none) :
    ¬ IsEffect registry (.obj (Fields.insert fields name value)) := by
  rintro ⟨honly', -⟩
  cases heffect with
  | intro honly hevent haction htargeting =>
    have hmem := honly' name (mem_keys_insert.2 (.inl rfl))
    simp only [List.mem_cons, List.not_mem_nil, or_false] at hmem
    rcases hmem with rfl | rfl | rfl
    · exact hevent.not_absent habsent
    · exact haction.not_absent habsent
    · exact htargeting.not_absent habsent

lemma isPlayerAura_refused_here (haura : IsPlayerAura registry (.obj fields))
    (habsent : Table.get? fields name = none) :
    ¬ IsPlayerAura registry (.obj (Fields.insert fields name value)) := by
  rintro ⟨honly', -⟩
  cases haura with
  | intro honly haction hending =>
    have hmem := honly' name (mem_keys_insert.2 (.inl rfl))
    simp only [List.mem_cons, List.not_mem_nil, or_false] at hmem
    rcases hmem with rfl | rfl
    · exact haction.not_absent habsent
    · exact hending.not_absent habsent

lemma isMinionAura_refused_here (haura : IsMinionAura registry (.obj fields))
    (habsent : Table.get? fields name = none) (hname : name ∉ optionalNames fields) :
    ¬ IsMinionAura registry (.obj (Fields.insert fields name value)) := by
  rintro ⟨honly', -⟩
  cases haura with
  | intro honly haction hselector =>
    have hmem := honly' name (mem_keys_insert.2 (.inl rfl))
    simp only [List.mem_cons, List.not_mem_nil, or_false] at hmem
    rcases hmem with rfl | rfl | hmem
    · exact haction.not_absent habsent
    · exact hselector.not_absent habsent
    · obtain ⟨selector, hget, -⟩ := hselector
      have htag : Table.get? fields Record.eventTag = none := by
        rw [get?_eq_none_of_not_mem]
        intro htag
        have := honly _ htag
        revert this
        decide
      have hoptional : optionalNames fields = ["players", "removal"] := by
        simp [optionalNames, Table.contains, htag, hget]
      rw [hoptional] at hname
      exact hname (by simpa using hmem)

variable (hget : Table.get? fields name = some inner) (hext : Extended inner inner')
  (hmisfit : Misfit registry inner inner')

include hget hext hmisfit

lemma isCondition_refused_field (h : HasBuiltIns registry)
    (hcondition : IsCondition (.obj fields)) :
    ¬ IsCondition (.obj (Fields.insert fields name inner')) := by
  intro hcondition'
  have hinner' := isCondition_field hcondition' (Fields.get?_insert_self fields name inner')
  obtain hscalar | ⟨rfl, hinner⟩ | ⟨rfl, hinner⟩ := isCondition_field hcondition hget
  · exact hscalar.not_extended hext
  · obtain hscalar' | ⟨-, hinner'⟩ | ⟨hname, -⟩ := hinner'
    · obtain ⟨text, rfl⟩ | ⟨n, rfl⟩ := hscalar' <;> cases hext
    · exact hmisfit .condition ((accepts_condition_iff h _).2 hinner)
        ((accepts_condition_iff h _).2 hinner')
    · revert hname
      decide
  · obtain hscalar' | ⟨hname, -⟩ | ⟨-, hinner'⟩ := hinner'
    · obtain ⟨text, rfl⟩ | ⟨n, rfl⟩ := hscalar' <;> cases hext
    · revert hname
      decide
    · exact hmisfit .conditions hinner hinner'

lemma isEvent_refused_field (h : HasBuiltIns registry) (hevent : IsEvent registry (.obj fields)) :
    ¬ IsEvent registry (.obj (Fields.insert fields name inner')) := by
  rintro ⟨-, -, hscope', hcondition', -⟩
  cases hevent with
  | intro htag honly hscope hcondition =>
    have hmem := honly.mem hget
    simp only [List.mem_cons, List.not_mem_nil, or_false] at hmem
    rcases hmem with rfl | rfl | rfl
    · rw [htag] at hget
      cases hget
      cases hext
    · exact hscope.not_insert hget hext (hmisfit (.choice _)) hscope'
    · refine hcondition.not_insert hget hext (fun hinner hinner' => ?_) hcondition'
      exact hmisfit .condition ((accepts_condition_iff h _).2 hinner)
        ((accepts_condition_iff h _).2 hinner')

omit hext in
lemma isEffect_refused_field (heffect : IsEffect registry (.obj fields)) :
    ¬ IsEffect registry (.obj (Fields.insert fields name inner')) := by
  rintro ⟨-, hevent', haction', htargeting'⟩
  cases heffect with
  | intro honly hevent haction htargeting =>
    have hmem := honly.mem hget
    simp only [List.mem_cons, List.not_mem_nil, or_false] at hmem
    rcases hmem with rfl | rfl | rfl
    · exact hevent.not_insert hget (hmisfit .event) hevent'
    · exact haction.not_insert hget (hmisfit .action) haction'
    · exact htargeting.not_insert hget (hmisfit .targeting) htargeting'

omit hext in
lemma isPlayerAura_refused_field (h : HasBuiltIns registry)
    (haura : IsPlayerAura registry (.obj fields)) :
    ¬ IsPlayerAura registry (.obj (Fields.insert fields name inner')) := by
  rintro ⟨-, haction', hending'⟩
  cases haura with
  | intro honly haction hending =>
    have hmem := honly.mem hget
    simp only [List.mem_cons, List.not_mem_nil, or_false] at hmem
    rcases hmem with rfl | rfl
    · exact haction.not_insert hget (misfit_reversible h hmisfit) haction'
    · exact hending.not_insert hget (hmisfit .event) hending'

lemma isMinionAura_refused_field (h : HasBuiltIns registry)
    (haura : IsMinionAura registry (.obj fields)) :
    ¬ IsMinionAura registry (.obj (Fields.insert fields name inner')) := by
  rintro ⟨-, haction', hselector', hplayers', hremoval'⟩
  cases haura with
  | intro honly haction hselector hplayers hremoval =>
    have hmem := honly.mem hget
    simp only [List.mem_cons, List.not_mem_nil, or_false] at hmem
    rcases hmem with rfl | rfl | rfl | rfl
    · exact haction.not_insert hget (misfit_reversible h hmisfit) haction'
    · exact hselector.not_insert hget (hmisfit .selector) hselector'
    · exact hplayers.not_insert hget hext (hmisfit (.choice _)) hplayers'
    · exact hremoval.not_insert hget hext (hmisfit (.choice _)) hremoval'

end Refusals

/-- The places that the readers of parts without parts fill. -/
def Place.isLeaf : Place → Bool
  | .action | .change | .selector | .targeting | .choice _ => true
  | _ => false

lemma refused_of_isLeaf {registry : Registry} (h : HasBuiltIns registry) {value value' : Json}
    (hext : Extended value value') {place : Place} (hleaf : place.isLeaf = true) :
    place.Fits registry value → ¬ place.Fits registry value' := by
  cases place with
  | action => exact leaf_refused (action_iff h) ActionFields.shaped ActionFields.scalar hext
  | change => exact leaf_refused (change_iff h) ChangeFields.shaped ChangeFields.scalar hext
  | selector => exact leaf_refused (selector_iff h) BareFields.shaped BareFields.scalar hext
  | targeting => exact leaf_refused (targeting_iff h) BareFields.shaped BareFields.scalar hext
  | choice names => exact isChoice_refused hext
  | _ => cases hleaf

/-- No reader that accepts a record accepts it with a field added at any depth. -/
theorem misfit_of_extended {registry : Registry} (h : HasBuiltIns registry) {value value' : Json}
    (hext : Extended value value') : Misfit registry value value' := by
  induction hext with
  | here habsent hname =>
    intro place
    cases place with
    | action | change | selector | targeting | choice =>
      exact refused_of_isLeaf h (.here habsent hname) rfl
    | conditions =>
      rintro ⟨items, heq, -⟩
      cases heq
    | condition =>
      simp only [Place.Fits, accepts_condition_iff h]
      exact fun hrecord => isCondition_refused_here hrecord habsent
    | event =>
      simp only [Place.Fits, accepts_event_iff h]
      exact fun hrecord => isEvent_refused_here hrecord habsent hname
    | effect =>
      simp only [Place.Fits, accepts_effect_iff]
      exact fun hrecord => isEffect_refused_here hrecord habsent
    | playerAura =>
      simp only [Place.Fits, accepts_playerAura_iff h]
      exact fun hrecord => isPlayerAura_refused_here hrecord habsent
    | minionAura =>
      simp only [Place.Fits, accepts_minionAura_iff h]
      exact fun hrecord => isMinionAura_refused_here hrecord habsent hname
  | field hget hinner ih =>
    intro place
    cases place with
    | action | change | selector | targeting | choice =>
      exact refused_of_isLeaf h (.field hget hinner) rfl
    | conditions =>
      rintro ⟨items, heq, -⟩
      cases heq
    | condition =>
      simp only [Place.Fits, accepts_condition_iff h]
      exact isCondition_refused_field hget hinner ih h
    | event =>
      simp only [Place.Fits, accepts_event_iff h]
      exact isEvent_refused_field hget hinner ih h
    | effect =>
      simp only [Place.Fits, accepts_effect_iff]
      exact isEffect_refused_field hget ih
    | playerAura =>
      simp only [Place.Fits, accepts_playerAura_iff h]
      exact isPlayerAura_refused_field hget ih h
    | minionAura =>
      simp only [Place.Fits, accepts_minionAura_iff h]
      exact isMinionAura_refused_field hget hinner ih h
  | @item before after inner inner' hinner ih =>
    intro place
    cases place with
    | action | change | selector | targeting | choice =>
      exact refused_of_isLeaf h (.item hinner) rfl
    | conditions =>
      rintro ⟨items, heq, hitems⟩ ⟨items', heq', hitems'⟩
      cases heq
      cases heq'
      refine ih .condition ((accepts_condition_iff h _).2 (hitems inner (by simp)))
        ((accepts_condition_iff h _).2 (hitems' inner' (by simp)))
    | condition =>
      simp only [Place.Fits, accepts_condition_iff h]
      exact nofun
    | event =>
      simp only [Place.Fits, accepts_event_iff h]
      exact nofun
    | effect =>
      simp only [Place.Fits, accepts_effect_iff]
      exact nofun
    | playerAura =>
      simp only [Place.Fits, accepts_playerAura_iff h]
      exact nofun
    | minionAura =>
      simp only [Place.Fits, accepts_minionAura_iff h]
      exact nofun

/-- With the built-in parts, each reader accepts exactly the records of its grammar, and none
accepts a record with a field added to it. -/
theorem records_accepted_exactly (record : Json) :
    (Accepts Registry.standard.condition record ↔ IsCondition record) ∧
    (Accepts Registry.standard.event record ↔ IsEvent Registry.standard record) ∧
    (Accepts Registry.standard.effect record ↔ IsEffect Registry.standard record) ∧
    (Accepts Registry.standard.playerAura record ↔ IsPlayerAura Registry.standard record) ∧
    (Accepts Registry.standard.minionAura record ↔ IsMinionAura Registry.standard record) ∧
    ∀ record', Extended record record' → Misfit Registry.standard record record' :=
  ⟨accepts_condition_iff standard_hasBuiltIns record,
    accepts_event_iff standard_hasBuiltIns record, accepts_effect_iff record,
    accepts_playerAura_iff standard_hasBuiltIns record,
    accepts_minionAura_iff standard_hasBuiltIns record,
    fun _ => misfit_of_extended standard_hasBuiltIns⟩

/-- The fields of a condition without parameters. -/
def selfFields : Fields :=
  [("type", .str "IS_SELF")]

/-- The fields of its negation. -/
def notSelfFields : Fields :=
  [("condition", .obj selfFields), ("type", .str "Not")]

theorem notSelf_accepted_without_scope :
    Accepts Registry.standard.condition (.obj notSelfFields) ∧
    ¬ Accepts Registry.standard.condition (.obj (Fields.insert notSelfFields "condition"
      (.obj (Fields.insert selfFields "scope" .null)))) := by
  have hinner : IsCondition (.obj selfFields) :=
    .bare (by decide : "is_self" ∈ _) ⟨"IS_SELF", rfl, by decide⟩
      (by simp [Only, Table.keys, Record.typeTag, selfFields])
  have hrecord : IsCondition (.obj notSelfFields) :=
    .negation ⟨"Not", rfl, by decide⟩
      (by simp [Only, Table.keys, Record.typeTag, notSelfFields]) rfl hinner
  have hscope : Extended (.obj selfFields) (.obj (Fields.insert selfFields "scope" .null)) :=
    .here rfl (by decide)
  obtain ⟨hcondition, -, -, -, -, hextended⟩ := records_accepted_exactly (.obj notSelfFields)
  have haccepted := hcondition.2 hrecord
  exact ⟨haccepted, hextended _ (.field rfl hscope) .condition haccepted⟩

end CardEffects.Proofs
