import CardEffects.Board.Judgement
import CardEffects.Proofs.RecordGrammar

/-!
# Writing and reading back

A part that is written and read back comes back as it was, but for what a record does not keep:
whether a rule is on, and the spelling of registered names. A record that was read once is in a
form that writing and reading no longer change.
-/

namespace CardEffects.Proofs

/-- The registries that come from the built-in parts by registering occurrences. -/
inductive WithOccurrences : Registry → Prop
  | standard : WithOccurrences Registry.standard
  | register {registry registry' : Registry} {name : String} {scope : Scope}
      (h : WithOccurrences registry)
      (hregister : registry.register name (.event scope) = .ok registry') :
      WithOccurrences registry'

lemma register_event_eq_ok {registry registry' : Registry} {name : String} {scope : Scope}
    (h : registry.register name (.event scope) = .ok registry') :
    registry' = { registry with
      events := Table.insert registry.events (RuleName.key name) ⟨name, scope⟩ } := by
  unfold Registry.register at h
  split at h
  · cases h
  · cases h
    rfl

lemma WithOccurrences.hasBuiltIns {registry : Registry} (h : WithOccurrences registry) :
    HasBuiltIns registry := by
  induction h with
  | standard => exact standard_hasBuiltIns
  | register h hregister ih =>
    rw [register_event_eq_ok hregister]
    exact ⟨ih.actions, ih.conditions, ih.selectors, ih.targetings⟩

lemma WithOccurrences.key_eq {registry : Registry} (h : WithOccurrences registry) {key : String}
    {known : Registered Scope} (hget : Table.get? registry.events key = some known) :
    RuleName.key known.name = key := by
  induction h with
  | standard =>
    rw [standard_events] at hget
    obtain ⟨entry, -, heq⟩ := List.mem_map.1 (mem_of_get? hget)
    cases heq
    rfl
  | @register registry registry' name scope h hregister ih =>
    rw [register_event_eq_ok hregister] at hget
    by_cases hkey : RuleName.key name = key
    · subst hkey
      rw [Table.get?_insert_self] at hget
      cases hget
      rfl
    · rw [Table.get?_insert_of_ne _ _ hkey] at hget
      exact ih hget

lemma spelled_spelled {registry : Registry} (h : WithOccurrences registry) (written : String) :
    spelled registry (spelled registry written) = spelled registry written := by
  unfold spelled
  cases hget : Table.get? registry.events (RuleName.key written) with
  | none => simp [hget]
  | some known => simp [h.key_eq hget, hget]

/-! ### What comes back -/

/-- Whether reading leaves the spelling of a name as it is: it is not registered, or registered
in this spelling. -/
def Settled (registry : Registry) (name : String) : Prop :=
  ∀ known, Table.get? registry.events (RuleName.key name) = some known → known.name = name

lemma spelled_of_settled {registry : Registry} {name : String} (h : Settled registry name) :
    spelled registry name = name := by
  unfold spelled
  cases hget : Table.get? registry.events (RuleName.key name) with
  | none => rfl
  | some known => simp [h known hget]

/-- An event with its name in the registered spelling. -/
def respelled (registry : Registry) (event : Event) : Event :=
  { event with name := spelled registry event.name }

/-- An effect as it comes back: off, and with its event in the registered spelling. -/
def rebuiltEffect (registry : Registry) (effect : Effect) : Effect :=
  { effect with event := respelled registry effect.event, active := none }

/-- A player aura as it comes back: off, and with its ending in the registered spelling. -/
def rebuiltPlayerAura (registry : Registry) (aura : PlayerAura) : PlayerAura :=
  { aura with ending := respelled registry aura.ending, active := none }

/-- A minion aura as it comes back: off. -/
def rebuiltMinionAura (aura : MinionAura) : MinionAura :=
  { aura with active := none }

def IsBuiltInSelector (selector : Selector) : Prop :=
  ∃ name, (name, selector) ∈ bareSelectors

def IsBuiltInTargeting (targeting : Targeting) : Prop :=
  ∃ name, (name, targeting) ∈ bareTargetings

/-- How a reader and a writer of parts go together. A part from `builtIn` that is written can be
read, and comes back as `rebuilt` says; for a part from `settled` that makes no difference to its
record; and what was read once is written and read without change from then on. -/
structure RoundTrips {α : Type} (read : Json → Except Fault α) (write : α → Json)
    (rebuilt : α → α) (builtIn settled : α → Prop) : Prop where
  reread : ∀ part, builtIn part → read (write part) = .ok (rebuilt part)
  same_record : ∀ part, settled part → write (rebuilt part) = write part
  canonical : ∀ record part, read record = .ok part → read (write part) = .ok part

lemma RoundTrips.of_fixed {α : Type} {read : Json → Except Fault α} {write : α → Json}
    {rebuilt : α → α} {builtIn settled : α → Prop}
    (hreread : ∀ part, builtIn part → read (write part) = .ok (rebuilt part))
    (hsame : ∀ part, settled part → write (rebuilt part) = write part)
    (hfixed : ∀ record part, read record = .ok part → builtIn part ∧ rebuilt part = part) :
    RoundTrips read write rebuilt builtIn settled where
  reread := hreread
  same_record := hsame
  canonical record part hread := by
    obtain ⟨hbuiltIn, heq⟩ := hfixed record part hread
    rw [hreread part hbuiltIn, heq]

/-! ### Records as they are written -/

lemma tagged_insert {params : Fields} {name : String} :
    Tagged (Fields.insert params Record.typeTag (.str name)) name :=
  ⟨name, Fields.get?_insert_self _ _ _, rfl⟩

lemma sole_insert {field : String} {value tag : Json} (hne : field ≠ Record.typeTag) :
    Sole (Fields.insert [(field, value)] Record.typeTag tag) field value :=
  erase_insert_self (by simp [Table.get?, hne])

lemma only_insert {params : Fields} {names : List String} {tag : Json} (h : Only params names) :
    Only (Fields.insert params Record.typeTag tag) (Record.typeTag :: names) := by
  intro name hname
  cases mem_keys_insert.1 hname with
  | inl heq => exact List.mem_cons.2 (.inl heq)
  | inr hmem => exact List.mem_cons.2 (.inr (h name hmem))

lemma bareFields_insert {α : Type} {parts : List (String × α)} {name : String} {part : α}
    (hmem : (name, part) ∈ parts) :
    BareFields parts (Fields.insert [] Record.typeTag (.str name)) part :=
  ⟨only_insert (only_nil.2 rfl), name, hmem, tagged_insert⟩

lemma only_insert_singleton {field : String} {value tag : Json} :
    Only (Fields.insert [(field, value)] Record.typeTag tag) [Record.typeTag, field] :=
  only_insert (by simp [Only, Table.keys])

lemma get?_insert_singleton {field : String} {value tag : Json} (hne : Record.typeTag ≠ field) :
    Table.get? (Fields.insert [(field, value)] Record.typeTag tag) field = some value := by
  rw [Fields.get?_insert_of_ne _ _ hne]
  simp [Table.get?]

section Readers

variable {registry : Registry} (h : HasBuiltIns registry)

include h

lemma change_toRecord (change : StatChange) : registry.change change.toRecord = .ok change := by
  rw [change_iff h]
  cases change with
  | attack amount => exact ⟨_, rfl, .attack tagged_insert (sole_insert (by decide))⟩
  | health amount => exact ⟨_, rfl, .health tagged_insert (sole_insert (by decide))⟩
  | taunt => exact ⟨_, rfl, .taunt tagged_insert (only_insert (only_nil.2 rfl))⟩

lemma action_toRecord (action : Action) : registry.action action.toRecord = .ok action := by
  cases action with
  | change change => exact (change_eq_ok_iff_action h).1 (change_toRecord h change)
  | damage amount =>
    exact (action_iff h).2 ⟨_, rfl, .damage tagged_insert (sole_insert (by decide))⟩
  | heal amount =>
    exact (action_iff h).2 ⟨_, rfl, .heal tagged_insert (sole_insert (by decide))⟩

lemma selector_toRecord {selector : Selector} (hselector : IsBuiltInSelector selector) :
    registry.selector selector.toRecord = .ok selector := by
  have hrecord : ∀ part ∈ bareSelectors, part.2.toRecord = Record.bare part.1 := by
    simp [bareSelectors, Selector.toRecord]
  obtain ⟨name, hmem⟩ := hselector
  rw [hrecord _ hmem, selector_iff h]
  exact ⟨_, rfl, bareFields_insert hmem⟩

lemma targeting_toRecord {targeting : Targeting} (htargeting : IsBuiltInTargeting targeting) :
    registry.targeting targeting.toRecord = .ok targeting := by
  have hrecord : ∀ part ∈ bareTargetings, part.2.toRecord = Record.bare part.1 := by
    simp [bareTargetings, Targeting.toRecord]
  obtain ⟨name, hmem⟩ := htargeting
  rw [hrecord _ hmem, targeting_iff h]
  exact ⟨_, rfl, bareFields_insert hmem⟩

lemma condition_bare {name : String} {condition : Condition}
    (hmem : (name, condition) ∈ bareConditions) :
    registry.condition (Record.bare name) = .ok condition := by
  have hhead : registry.conditionHead (Record.bare name) = .ok (.leaf condition) :=
    (conditionHead_iff h).2 ⟨_, rfl, .bare (bareFields_insert hmem)⟩
  rw [Registry.condition_eq, hhead]

end Readers

mutual

lemma condition_toRecord {registry : Registry} (h : HasBuiltIns registry) (condition : Condition) :
    registry.condition condition.toRecord = .ok condition := by
  cases condition with
  | isSelf => exact condition_bare h (by simp [bareConditions])
  | isMinion => exact condition_bare h (by simp [bareConditions])
  | isHero => exact condition_bare h (by simp [bareConditions])
  | focusIsFriendly => exact condition_bare h (by simp [bareConditions])
  | amountAtLeast min =>
    have hhead : registry.conditionHead (Condition.amountAtLeast min).toRecord =
        .ok (.leaf (.amountAtLeast min)) :=
      (conditionHead_iff h).2 ⟨_, rfl, .amountAtLeast tagged_insert (sole_insert (by decide))⟩
    rw [Registry.condition_eq, hhead]
  | negation inner =>
    have hhead : registry.conditionHead (Condition.negation inner).toRecord =
        .ok (.negation inner.toRecord) :=
      (conditionHead_iff h).2 ⟨_, rfl, .negation tagged_insert only_insert_singleton
        (get?_insert_singleton (by decide))⟩
    rw [Registry.condition_eq, hhead]
    exact map_eq_ok.2 ⟨inner, condition_toRecord h inner, rfl⟩
  | all conditions =>
    have hhead : registry.conditionHead (Condition.all conditions).toRecord =
        .ok (.all (Condition.toRecords conditions)) :=
      (conditionHead_iff h).2 ⟨_, rfl, .all tagged_insert only_insert_singleton
        (get?_insert_singleton (by decide))⟩
    rw [Registry.condition_eq, hhead]
    exact map_eq_ok.2 ⟨conditions, conditions_toRecords h conditions, rfl⟩
  | any conditions =>
    have hhead : registry.conditionHead (Condition.any conditions).toRecord =
        .ok (.any (Condition.toRecords conditions)) :=
      (conditionHead_iff h).2 ⟨_, rfl, .any tagged_insert only_insert_singleton
        (get?_insert_singleton (by decide))⟩
    rw [Registry.condition_eq, hhead]
    exact map_eq_ok.2 ⟨conditions, conditions_toRecords h conditions, rfl⟩

lemma conditions_toRecords {registry : Registry} (h : HasBuiltIns registry)
    (conditions : List Condition) :
    (Condition.toRecords conditions).mapM registry.condition = .ok conditions := by
  cases conditions with
  | nil => rfl
  | cons condition conditions =>
    rw [Condition.toRecords, List.mapM_cons, condition_toRecord h condition,
      conditions_toRecords h conditions]
    rfl

end

/-! ### Events, effects and auras -/

lemma scope_ofJson?_name (scope : Scope) : Scope.ofJson? (.str scope.name) = some scope := by
  cases scope <;> rfl

lemma coverage_ofJson?_name (players : Coverage) :
    Coverage.ofJson? (.str players.name) = some players := by
  cases players <;> rfl

lemma removal_ofJson?_name (removal : RemovalPolicy) :
    RemovalPolicy.ofJson? (.str removal.name) = some removal := by
  cases removal <;> rfl

lemma map_given {α : Type} {fields : Fields} {field text : String} {read : Json → Option α}
    {option : α} (hget : Table.get? fields field = some (.str text))
    (hread : read (.str text) = some option) :
    (given fields field).map read = (some option).map some := by
  rw [given_eq_some.2 ⟨hget, nofun⟩, Option.map_some, hread]
  rfl

def eventFields (event : Event) : Fields :=
  Fields.ofList (
    [(Record.eventTag, .str event.name), ("scope", .str event.scope.name)] ++
    event.condition.toList.map fun condition => ("condition", condition.toRecord))

lemma eventFields_name (event : Event) :
    Table.get? (eventFields event) Record.eventTag = some (.str event.name) := by
  unfold eventFields
  rw [get?_ofList]
  cases event.condition <;> simp [Table.get?, Record.eventTag]

lemma eventFields_scope (event : Event) :
    Table.get? (eventFields event) "scope" = some (.str event.scope.name) := by
  unfold eventFields
  rw [get?_ofList]
  cases event.condition <;> simp [Table.get?]

lemma condition_toRecord_ne_null (condition : Condition) : condition.toRecord ≠ .null := by
  cases condition <;> nofun

lemma eventFields_condition (event : Event) :
    given (eventFields event) "condition" = event.condition.map Condition.toRecord := by
  unfold eventFields
  cases hcondition : event.condition with
  | none =>
    unfold given
    rw [get?_ofList]
    simp [Table.get?, Record.eventTag]
  | some condition =>
    rw [Option.map_some, given_eq_some, get?_ofList]
    simp [Table.get?, condition_toRecord_ne_null]

lemma eventFields_only (event : Event) :
    Only (eventFields event) [Record.eventTag, "scope", "condition"] := by
  intro name hname
  have hmem := mem_keys_ofList.1 hname
  cases hcondition : event.condition <;> rw [hcondition] at hmem
  · simpa using Or.imp_right Or.inl (by simpa using hmem)
  · simpa using hmem

section Rules

variable {registry : Registry} (h : HasBuiltIns registry)

include h

lemma event_toRecord (event : Event) :
    registry.event event.toRecord = .ok (respelled registry event) := by
  rw [event_eq_ok]
  refine ⟨eventFields event, event.name, some event.scope, rfl, eventFields_name event,
    eventFields_only event, map_given (eventFields_scope event) (scope_ofJson?_name _), rfl, rfl,
    ?_⟩
  rw [eventFields_condition]
  unfold respelled
  cases event.condition with
  | none => rfl
  | some condition => exact bind_eq_ok.2 ⟨condition, condition_toRecord h condition, rfl⟩

lemma effect_toRecord {effect : Effect} (htargeting : IsBuiltInTargeting effect.targeting) :
    registry.effect effect.toRecord = .ok (rebuiltEffect registry effect) := by
  rw [effect_eq_ok]
  refine ⟨_, rfl, ?_, ⟨effect.event.toRecord, ?_, event_toRecord h _⟩,
    ⟨effect.action.toRecord, ?_, action_toRecord h _⟩,
    ⟨effect.targeting.toRecord, ?_, targeting_toRecord h htargeting⟩, rfl⟩
  · exact fun name hname => mem_keys_ofList.1 hname
  all_goals
    rw [get?_ofList]
    simp [Table.get?]

lemma playerAura_toRecord (aura : PlayerAura) :
    registry.playerAura aura.toRecord = .ok (rebuiltPlayerAura registry aura) := by
  rw [playerAura_eq_ok]
  refine ⟨_, rfl, ?_, ⟨aura.change.toRecord, ?_, change_toRecord h _⟩,
    ⟨aura.ending.toRecord, ?_, event_toRecord h _⟩, rfl⟩
  · exact fun name hname => mem_keys_ofList.1 hname
  all_goals
    rw [get?_ofList]
    simp [Table.get?]

lemma minionAura_toRecord {aura : MinionAura} (hselector : IsBuiltInSelector aura.selector) :
    registry.minionAura aura.toRecord = .ok (rebuiltMinionAura aura) := by
  rw [minionAura_eq_ok]
  refine ⟨Fields.ofList _, some aura.players, some aura.removal, rfl, ?_,
    ⟨aura.change.toRecord, ?_, change_toRecord h _⟩,
    ⟨aura.selector.toRecord, ?_, selector_toRecord h hselector⟩,
    map_given ?_ (coverage_ofJson?_name _), map_given ?_ (removal_ofJson?_name _), rfl, rfl, rfl⟩
  · exact fun name hname => mem_keys_ofList.1 hname
  all_goals
    rw [get?_ofList]
    simp [Table.get?]

end Rules

/-! ### What is read comes back -/

section Fixed

variable {registry : Registry}

lemma respelled_of_settled {event : Event} (h : Settled registry event.name) :
    respelled registry event = event := by
  unfold respelled
  rw [spelled_of_settled h]

lemma respelled_of_read (h : WithOccurrences registry) {record : Json} {event : Event}
    (hread : registry.event record = .ok event) : respelled registry event = event := by
  obtain ⟨fields, written, scope, -, -, -, -, hname, -⟩ := event_eq_ok.1 hread
  unfold respelled
  rw [hname, spelled_spelled h, ← hname]

lemma isBuiltInSelector_of_read (h : HasBuiltIns registry) {record : Json} {selector : Selector}
    (hread : registry.selector record = .ok selector) : IsBuiltInSelector selector := by
  obtain ⟨fields, -, -, name, hmem, -⟩ := (selector_iff h).1 hread
  exact ⟨name, hmem⟩

lemma isBuiltInTargeting_of_read (h : HasBuiltIns registry) {record : Json}
    {targeting : Targeting} (hread : registry.targeting record = .ok targeting) :
    IsBuiltInTargeting targeting := by
  obtain ⟨fields, -, -, name, hmem, -⟩ := (targeting_iff h).1 hread
  exact ⟨name, hmem⟩

lemma effect_fixed (h : WithOccurrences registry) {record : Json} {effect : Effect}
    (hread : registry.effect record = .ok effect) :
    IsBuiltInTargeting effect.targeting ∧ rebuiltEffect registry effect = effect := by
  obtain ⟨fields, -, -, ⟨event, -, hevent⟩, -, ⟨targeting, -, htargeting⟩, hactive⟩ :=
    effect_eq_ok.1 hread
  refine ⟨isBuiltInTargeting_of_read h.hasBuiltIns htargeting, ?_⟩
  unfold rebuiltEffect
  rw [respelled_of_read h hevent, ← hactive]

lemma playerAura_fixed (h : WithOccurrences registry) {record : Json} {aura : PlayerAura}
    (hread : registry.playerAura record = .ok aura) : rebuiltPlayerAura registry aura = aura := by
  obtain ⟨fields, -, -, -, ⟨ending, -, hending⟩, hactive⟩ := playerAura_eq_ok.1 hread
  unfold rebuiltPlayerAura
  rw [respelled_of_read h hending, ← hactive]

lemma minionAura_fixed (h : WithOccurrences registry) {record : Json} {aura : MinionAura}
    (hread : registry.minionAura record = .ok aura) :
    IsBuiltInSelector aura.selector ∧ rebuiltMinionAura aura = aura := by
  obtain ⟨fields, players, removal, -, -, -, ⟨selector, -, hselector⟩, -, -, -, -, hactive⟩ :=
    minionAura_eq_ok.1 hread
  refine ⟨isBuiltInSelector_of_read h.hasBuiltIns hselector, ?_⟩
  unfold rebuiltMinionAura
  rw [← hactive]

end Fixed

/-! ### Readers and writers together -/

section RoundTrip

variable {registry : Registry}

lemma roundTrips_of_reread {α : Type} {read : Json → Except Fault α} {write : α → Json}
    (hreread : ∀ part, read (write part) = .ok part) :
    RoundTrips read write id (fun _ => True) (fun _ => True) :=
  .of_fixed (fun part _ => hreread part) (fun _ _ => rfl) fun _ _ _ => ⟨trivial, rfl⟩

variable (h : WithOccurrences registry)

include h

lemma selector_roundTrips :
    RoundTrips registry.selector Selector.toRecord id IsBuiltInSelector (fun _ => True) :=
  .of_fixed (fun _ hpart => selector_toRecord h.hasBuiltIns hpart) (fun _ _ => rfl)
    fun _ _ hread => ⟨isBuiltInSelector_of_read h.hasBuiltIns hread, rfl⟩

lemma targeting_roundTrips :
    RoundTrips registry.targeting Targeting.toRecord id IsBuiltInTargeting (fun _ => True) :=
  .of_fixed (fun _ hpart => targeting_toRecord h.hasBuiltIns hpart) (fun _ _ => rfl)
    fun _ _ hread => ⟨isBuiltInTargeting_of_read h.hasBuiltIns hread, rfl⟩

lemma event_roundTrips :
    RoundTrips registry.event Event.toRecord (respelled registry) (fun _ => True)
      (fun event => Settled registry event.name) :=
  .of_fixed (fun event _ => event_toRecord h.hasBuiltIns event)
    (fun event hsettled => by rw [respelled_of_settled hsettled])
    fun _ _ hread => ⟨trivial, respelled_of_read h hread⟩

lemma effect_roundTrips :
    RoundTrips registry.effect Effect.toRecord (rebuiltEffect registry)
      (fun effect => IsBuiltInTargeting effect.targeting)
      (fun effect => Settled registry effect.event.name) :=
  .of_fixed (fun _ htargeting => effect_toRecord h.hasBuiltIns htargeting)
    (fun effect hsettled => by
      unfold rebuiltEffect Effect.toRecord
      rw [respelled_of_settled hsettled])
    fun _ _ hread => effect_fixed h hread

lemma playerAura_roundTrips :
    RoundTrips registry.playerAura PlayerAura.toRecord (rebuiltPlayerAura registry)
      (fun _ => True) (fun aura => Settled registry aura.ending.name) :=
  .of_fixed (fun aura _ => playerAura_toRecord h.hasBuiltIns aura)
    (fun aura hsettled => by
      unfold rebuiltPlayerAura PlayerAura.toRecord
      rw [respelled_of_settled hsettled])
    fun _ _ hread => ⟨trivial, playerAura_fixed h hread⟩

lemma minionAura_roundTrips :
    RoundTrips registry.minionAura MinionAura.toRecord rebuiltMinionAura
      (fun aura => IsBuiltInSelector aura.selector) (fun _ => True) :=
  .of_fixed (fun _ hselector => minionAura_toRecord h.hasBuiltIns hselector) (fun _ _ => rfl)
    fun _ _ hread => minionAura_fixed h hread

end RoundTrip

/-- With the built-in parts and any further occurrences, writing and reading go together for the
parts of every family, and a condition that comes back holds whenever the written one does. -/
theorem records_round_trip {registry : Registry} (h : WithOccurrences registry) :
    RoundTrips registry.action Action.toRecord id (fun _ => True) (fun _ => True) ∧
    RoundTrips registry.change StatChange.toRecord id (fun _ => True) (fun _ => True) ∧
    RoundTrips registry.condition Condition.toRecord id (fun _ => True) (fun _ => True) ∧
    RoundTrips registry.selector Selector.toRecord id IsBuiltInSelector (fun _ => True) ∧
    RoundTrips registry.targeting Targeting.toRecord id IsBuiltInTargeting (fun _ => True) ∧
    RoundTrips registry.event Event.toRecord (respelled registry) (fun _ => True)
      (fun event => Settled registry event.name) ∧
    RoundTrips registry.effect Effect.toRecord (rebuiltEffect registry)
      (fun effect => IsBuiltInTargeting effect.targeting)
      (fun effect => Settled registry effect.event.name) ∧
    RoundTrips registry.playerAura PlayerAura.toRecord (rebuiltPlayerAura registry)
      (fun _ => True) (fun aura => Settled registry aura.ending.name) ∧
    RoundTrips registry.minionAura MinionAura.toRecord rebuiltMinionAura
      (fun aura => IsBuiltInSelector aura.selector) (fun _ => True) ∧
    ∀ condition condition' : Condition,
      registry.condition condition.toRecord = .ok condition' → ∀ board target payload,
        condition'.holds board target payload = condition.holds board target payload := by
  have hparts := h.hasBuiltIns
  refine ⟨roundTrips_of_reread (action_toRecord hparts),
    roundTrips_of_reread (change_toRecord hparts),
    roundTrips_of_reread (condition_toRecord hparts), selector_roundTrips h,
    targeting_roundTrips h, event_roundTrips h, effect_roundTrips h, playerAura_roundTrips h,
    minionAura_roundTrips h, ?_⟩
  intro condition condition' hread board target payload
  rw [condition_toRecord hparts] at hread
  cases hread
  rfl

/-- The built-in parts with one more occurrence. -/
def cardRegistry : Registry :=
  Registry.standard.set "card_drawn" (.event .player)

/-- An effect that answers to the occurrence in another spelling of its name. -/
def drawEffect : Effect :=
  { event :=
      { name := "CARD__Drawn"
        scope := .minion
        condition := some (.all [.isHero, .negation .isSelf]) }
    action := .damage .one
    targeting := .ownerHero }

theorem drawEffect_comes_back : WithOccurrences cardRegistry ∧
    cardRegistry.effect drawEffect.toRecord =
      .ok { drawEffect with event := { drawEffect.event with name := "card_drawn" } } := by
  have hregister : Registry.standard.register "card_drawn" (.event .player) = .ok cardRegistry :=
    rfl
  have hregistry := WithOccurrences.standard.register hregister
  obtain ⟨-, -, -, -, -, -, heffect, -⟩ := records_round_trip hregistry
  have hreread := heffect.reread drawEffect ⟨"owner_hero", by decide⟩
  have hname : spelled cardRegistry "CARD__Drawn" = "card_drawn" := by rfl
  refine ⟨hregistry, ?_⟩
  rw [hreread, ← hname]
  rfl

end CardEffects.Proofs
