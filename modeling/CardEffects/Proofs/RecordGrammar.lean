import CardEffects.Proofs.BuiltInParts

/-!
# The grammar of records

Which JSON values the readers of the built-in parts accept, said without the readers: which
fields a record has and what they hold. A record has no other fields, at no depth, so a field
that is added to an accepted record anywhere but where the grammar leaves one out makes every
reader refuse it.
-/

namespace CardEffects.Proofs

def Accepts {α : Type} (read : Json → Except Fault α) (record : Json) : Prop :=
  ∃ part, read record = .ok part

/-- Whether a field is absent or `null`, or else has a value as stated. -/
def Allows (fields : Fields) (field : String) (p : Json → Prop) : Prop :=
  ∀ value, given fields field = some value → p value

/-- Whether a value is one of these names, as a string or as the only field of an object that
holds `null`. -/
def IsChoice (names : List String) (value : Json) : Prop :=
  ∃ name ∈ names, value = .str name ∨ value = .obj [(name, .null)]

/-! ### The grammar -/

/-- The records of conditions. -/
inductive IsCondition : Json → Prop
  | bare {fields : Fields} {name : String}
      (hname : name ∈ ["is_self", "is_minion", "is_hero", "focus_is_friendly"])
      (htag : Tagged fields name) (honly : Only fields [Record.typeTag]) :
      IsCondition (.obj fields)
  | amountAtLeast {fields : Fields} {min : Int} (htag : Tagged fields "amount_at_least")
      (hsole : Sole fields "min" (.int min))
      (hmin : -9223372036854775808 ≤ min ∧ min ≤ 9223372036854775807) :
      IsCondition (.obj fields)
  | negation {fields : Fields} {inner : Json} (htag : Tagged fields "not")
      (honly : Only fields [Record.typeTag, "condition"])
      (hget : Table.get? fields "condition" = some inner) (hinner : IsCondition inner) :
      IsCondition (.obj fields)
  | connective {fields : Fields} {name : String} {items : List Json}
      (hname : name ∈ ["and", "or"]) (htag : Tagged fields name)
      (honly : Only fields [Record.typeTag, "conditions"])
      (hget : Table.get? fields "conditions" = some (.arr items))
      (hitems : ∀ item ∈ items, IsCondition item) : IsCondition (.obj fields)

/-- The records of events. -/
inductive IsEvent (registry : Registry) : Json → Prop
  | intro {fields : Fields} {written : String}
      (hname : Table.get? fields Record.eventTag = some (.str written))
      (honly : Only fields [Record.eventTag, "scope", "condition"])
      (hscope : Allows fields "scope" (IsChoice ["minion", "player"]))
      (hcondition : Allows fields "condition" IsCondition)
      (hresolved : registry.isRegistered .event written = true ∨ (given fields "scope").isSome) :
      IsEvent registry (.obj fields)

/-- The records of effects. -/
inductive IsEffect (registry : Registry) : Json → Prop
  | intro {fields : Fields} (honly : Only fields ["event", "action", "targeting"])
      (hevent : Holds fields "event" (Accepts registry.event))
      (haction : Holds fields "action" (Accepts registry.action))
      (htargeting : Holds fields "targeting" (Accepts registry.targeting)) :
      IsEffect registry (.obj fields)

/-- Whether a record is that of an action that can be taken back. -/
def IsReversible (registry : Registry) (record : Json) : Prop :=
  ∃ change, registry.action record = .ok (.change change)

/-- The records of player auras. -/
inductive IsPlayerAura (registry : Registry) : Json → Prop
  | intro {fields : Fields} (honly : Only fields ["action", "until"])
      (haction : Holds fields "action" (IsReversible registry))
      (hending : Holds fields "until" (Accepts registry.event)) :
      IsPlayerAura registry (.obj fields)

/-- The records of minion auras. -/
inductive IsMinionAura (registry : Registry) : Json → Prop
  | intro {fields : Fields} (honly : Only fields ["action", "selector", "players", "removal"])
      (haction : Holds fields "action" (IsReversible registry))
      (hselector : Holds fields "selector" (Accepts registry.selector))
      (hplayers : Allows fields "players" (IsChoice ["friendly", "enemy", "all"]))
      (hremoval : Allows fields "removal" (IsChoice ["snapshot", "recompute"])) :
      IsMinionAura registry (.obj fields)

/-! ### Optional fields -/

lemma choice?_isSome {α : Type} {names : List (String × α)} {value : Json} :
    (Json.choice? names value).isSome ↔ IsChoice (names.map (·.1)) value := by
  have hmem (name : String) : (Table.get? names name).isSome ↔ name ∈ names.map (·.1) := by
    rw [← Option.ne_none_iff_isSome, ne_eq, get?_eq_none_of_not_mem, not_not, Table.keys]
  unfold Json.choice? IsChoice
  split
  · next name => simpa using hmem name
  · next name => simpa using hmem name
  · next hstr hobj =>
    simp only [Option.isSome_none, Bool.false_eq_true, false_iff, not_exists, not_and, not_or]
    exact fun name _ => ⟨hstr name, hobj name⟩

lemma allows_iff {α : Type} {fields : Fields} {field : String} {read : Json → Option α} :
    (∃ found : Option α, (given fields field).map read = found.map some) ↔
      Allows fields field fun value => (read value).isSome := by
  unfold Allows
  cases given fields field with
  | none => simp only [reduceCtorEq, false_implies, implies_true, iff_true]; exact ⟨none, rfl⟩
  | some value =>
    cases hread : read value with
    | none =>
      simp only [Option.map_some, hread, Option.some.injEq, forall_eq', Option.isSome_none,
        Bool.false_eq_true, iff_false, not_exists]
      intro found hfound
      cases found <;> cases hfound
    | some part =>
      simp only [Option.map_some, hread, Option.some.injEq, forall_eq', Option.isSome_some,
        iff_true]
      exact ⟨some part, rfl⟩

/-! ### Conditions -/

section Readers

variable {registry : Registry}

/-- A condition is read if and only if its head and the conditions in it are. -/
lemma accepts_condition_iff_head {record : Json} :
    Accepts registry.condition record ↔ ∃ head, registry.conditionHead record = .ok head ∧
      ∀ part ∈ head.records, Accepts registry.condition part := by
  have hmap {α : Type} (x : Except Fault α) (f : α → Condition) :
      (∃ part, x.map f = .ok part) ↔ ∃ a, x = .ok a := by
    cases x <;> simp [Except.map]
  unfold Accepts
  simp only [Registry.condition_eq registry record]
  cases registry.conditionHead record with
  | error fault => simp
  | ok head =>
    cases head with
    | leaf condition => simp [ConditionHead.records]
    | negation inner => simp [ConditionHead.records, hmap]
    | all items => simp [ConditionHead.records, hmap, exists_mapM_eq_ok]
    | any items => simp [ConditionHead.records, hmap, exists_mapM_eq_ok]

variable (h : HasBuiltIns registry)

include h

lemma isCondition_iff_head {record : Json} :
    IsCondition record ↔ ∃ head, registry.conditionHead record = .ok head ∧
      ∀ part ∈ head.records, IsCondition part := by
  simp only [conditionHead_iff h]
  constructor
  · intro hrecord
    cases hrecord with
    | bare hname htag honly =>
      obtain ⟨part, hpart, rfl⟩ :=
        List.mem_map.1 (show _ ∈ bareConditions.map Prod.fst from hname)
      exact ⟨_, ⟨_, rfl, .bare ⟨honly, _, hpart, htag⟩⟩, by simp [ConditionHead.records]⟩
    | amountAtLeast htag hsole hmin =>
      let least : Amount := ⟨_, hmin.1, hmin.2⟩
      exact ⟨.leaf (.amountAtLeast least), ⟨_, rfl, .amountAtLeast htag hsole⟩,
        by simp [ConditionHead.records]⟩
    | negation htag honly hget hinner =>
      exact ⟨_, ⟨_, rfl, .negation htag honly hget⟩, by simpa [ConditionHead.records] using hinner⟩
    | connective hname htag honly hget hitems =>
      simp only [List.mem_cons, List.not_mem_nil, or_false] at hname
      rcases hname with rfl | rfl
      · exact ⟨_, ⟨_, rfl, .all htag honly hget⟩, hitems⟩
      · exact ⟨_, ⟨_, rfl, .any htag honly hget⟩, hitems⟩
  · rintro ⟨head, ⟨fields, rfl, hfields⟩, hparts⟩
    cases hfields with
    | bare hbare =>
      obtain ⟨honly, name, hmem, htag⟩ := hbare
      exact .bare (List.mem_map.2 ⟨_, hmem, rfl⟩ : _ ∈ bareConditions.map Prod.fst) htag honly
    | amountAtLeast htag hsole => exact .amountAtLeast htag hsole ⟨Amount.ge_min _, Amount.le_max _⟩
    | negation htag honly hget =>
      exact .negation htag honly hget (hparts _ (List.mem_singleton_self _))
    | all htag honly hget => exact .connective (by simp) htag honly hget hparts
    | any htag honly hget => exact .connective (by simp) htag honly hget hparts

theorem accepts_condition_iff (record : Json) :
    Accepts registry.condition record ↔ IsCondition record := by
  rw [accepts_condition_iff_head, isCondition_iff_head h]
  refine exists_congr fun head => and_congr_right fun hhead => ?_
  have hpart (part : Json) (hmem : part ∈ head.records) :
      Accepts registry.condition part ↔ IsCondition part :=
    have : sizeOf part < sizeOf record := Registry.sizeOf_conditionHead hhead hmem
    accepts_condition_iff part
  exact forall₂_congr hpart
termination_by sizeOf record

end Readers

/-! ### Events, effects and auras -/

section Readers

variable {registry : Registry}

lemma exists_option_iff {α : Type} {fields : Fields} {field : String} {names : List (String × α)} :
    (∃ found : Option α, (given fields field).map (Json.choice? names) = found.map some) ↔
      Allows fields field (IsChoice (names.map (·.1))) := by
  rw [allows_iff]
  exact forall₂_congr fun _ _ => choice?_isSome

lemma isRegistered_event_iff {written : String} :
    registry.isRegistered .event written = true ↔
      (registeredScope registry written).isSome = true := by
  simp [Registry.isRegistered, Table.contains, registeredScope]

lemma exists_mapM_given_iff {fields : Fields} {field : String}
    {read : Json → Except Fault Condition} :
    (∃ found, (given fields field).mapM read = .ok found) ↔
      Allows fields field (Accepts read) := by
  unfold Allows Accepts
  cases given fields field with
  | none =>
    simp only [reduceCtorEq, false_implies, implies_true, iff_true]
    exact ⟨none, rfl⟩
  | some value =>
    simp only [Option.some.injEq, forall_eq']
    constructor
    · rintro ⟨found, hfound⟩
      obtain ⟨part, hread, -⟩ := bind_eq_ok.1 hfound
      exact ⟨part, hread⟩
    · rintro ⟨part, hread⟩
      exact ⟨some part, bind_eq_ok.2 ⟨part, hread, rfl⟩⟩

variable (h : HasBuiltIns registry) (record : Json)

include h

theorem accepts_event_iff : Accepts registry.event record ↔ IsEvent registry record := by
  have hconditions (fields : Fields) :
      Allows fields "condition" IsCondition ↔
        Allows fields "condition" (Accepts registry.condition) :=
    forall₂_congr fun value _ => (accepts_condition_iff h value).symm
  unfold Accepts
  simp only [event_eq_ok]
  constructor
  · rintro ⟨event, fields, written, scope, rfl, hname, honly, hscope, -, hresolved, hcondition⟩
    refine .intro hname honly (exists_option_iff.1 ⟨scope, hscope⟩)
      ((hconditions fields).2 (exists_mapM_given_iff.1 ⟨_, hcondition⟩)) ?_
    rw [isRegistered_event_iff]
    have hgiven : (given fields "scope").isSome = scope.isSome := by
      simpa using congrArg Option.isSome hscope
    rw [hgiven]
    cases scope with
    | none => exact .inl (by rw [Option.none_or] at hresolved; rw [hresolved]; rfl)
    | some scope => exact .inr rfl
  · intro hrecord
    cases hrecord with
    | @intro fields written hname honly hscope hcondition hresolved =>
      obtain ⟨scope, hread⟩ : ∃ scope : Option Scope,
          (given fields "scope").map Scope.ofJson? = scope.map some := exists_option_iff.2 hscope
      obtain ⟨condition, hcond⟩ := exists_mapM_given_iff.2 ((hconditions fields).1 hcondition)
      have hsome : ∃ scope', scope.or (registeredScope registry written) = some scope' := by
        rw [isRegistered_event_iff] at hresolved
        have hgiven : (given fields "scope").isSome = scope.isSome := by
          simpa using congrArg Option.isSome hread
        rw [hgiven] at hresolved
        rw [← Option.isSome_iff_exists, Option.isSome_or]
        simpa [or_comm] using hresolved
      obtain ⟨scope', hscope'⟩ := hsome
      exact ⟨⟨spelled registry written, scope', condition⟩, fields, written, scope, rfl, hname,
        honly, hread, rfl, hscope', hcond⟩

omit h in
theorem accepts_effect_iff : Accepts registry.effect record ↔ IsEffect registry record := by
  unfold Accepts
  simp only [effect_eq_ok]
  constructor
  · rintro ⟨effect, fields, rfl, honly, ⟨event, hevent, he⟩, ⟨action, haction, ha⟩,
      ⟨targeting, htargeting, ht⟩, -⟩
    exact .intro honly ⟨event, hevent, _, he⟩ ⟨action, haction, _, ha⟩
      ⟨targeting, htargeting, _, ht⟩
  · rintro ⟨honly, ⟨event, hevent, e, he⟩, ⟨action, haction, a, ha⟩,
      ⟨targeting, htargeting, t, ht⟩⟩
    exact ⟨{ event := e, action := a, targeting := t }, _, rfl, honly, ⟨event, hevent, he⟩,
      ⟨action, haction, ha⟩, ⟨targeting, htargeting, ht⟩, rfl⟩

theorem accepts_playerAura_iff :
    Accepts registry.playerAura record ↔ IsPlayerAura registry record := by
  unfold Accepts
  simp only [playerAura_eq_ok, change_eq_ok_iff_action h]
  constructor
  · rintro ⟨aura, fields, rfl, honly, ⟨action, haction, hc⟩, ⟨ending, hending, he⟩, -⟩
    exact .intro honly ⟨action, haction, _, hc⟩ ⟨ending, hending, _, he⟩
  · rintro ⟨honly, ⟨action, haction, c, hc⟩, ⟨ending, hending, e, he⟩⟩
    exact ⟨{ change := c, ending := e }, _, rfl, honly, ⟨action, haction, hc⟩,
      ⟨ending, hending, he⟩, rfl⟩

theorem accepts_minionAura_iff :
    Accepts registry.minionAura record ↔ IsMinionAura registry record := by
  unfold Accepts
  simp only [minionAura_eq_ok, change_eq_ok_iff_action h]
  constructor
  · rintro ⟨aura, fields, players, removal, rfl, honly, ⟨action, haction, hc⟩,
      ⟨selector, hselector, hs⟩, hplayers, hremoval, -⟩
    exact .intro honly ⟨action, haction, _, hc⟩ ⟨selector, hselector, _, hs⟩
      (exists_option_iff.1 ⟨players, hplayers⟩) (exists_option_iff.1 ⟨removal, hremoval⟩)
  · intro hrecord
    cases hrecord with
    | @intro fields honly haction hselector hplayers hremoval =>
      obtain ⟨action, haction, c, hc⟩ := haction
      obtain ⟨selector, hselector, s, hs⟩ := hselector
      obtain ⟨players, hplayers⟩ : ∃ players : Option Coverage,
          (given fields "players").map Coverage.ofJson? = players.map some :=
        exists_option_iff.2 hplayers
      obtain ⟨removal, hremoval⟩ : ∃ removal : Option RemovalPolicy,
          (given fields "removal").map RemovalPolicy.ofJson? = removal.map some :=
        exists_option_iff.2 hremoval
      exact ⟨{ change := c, selector := s, players := players.getD .friendly,
               removal := removal.getD .snapshot }, fields, players, removal, rfl, honly,
        ⟨action, haction, hc⟩, ⟨selector, hselector, hs⟩, hplayers, hremoval, rfl, rfl, rfl⟩

end Readers

end CardEffects.Proofs
