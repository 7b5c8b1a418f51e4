import CardEffects.Proofs.RecordFields

/-!
# Look-ups of names

What a registry reads depends on no more than what each name stands for in each family, so two
registries with the same look-ups read every record alike, however their tables are laid out.
-/

namespace CardEffects.Proofs

/-- A name and the part that it stands for. -/
abbrev Registration : Type := String × Part

def tableEntryAt {form : Type} (part : form → Part) (table : Table String (Registered form))
    (key : String) : Option Registration :=
  (Table.get? table key).map fun entry => (entry.name, part entry.form)

/-- What stands under a key in a family. Effects and auras have no names. -/
def entryAt (registry : Registry) (family : Family) (key : String) : Option Registration :=
  match family with
  | .action => tableEntryAt .action registry.actions key
  | .condition => tableEntryAt .condition registry.conditions key
  | .selector => tableEntryAt .selector registry.selectors key
  | .targeting => tableEntryAt .targeting registry.targetings key
  | .event => tableEntryAt .event registry.events key
  | .effect | .aura => none

/-- Whether a name is looked up to a registration. -/
def Finds (registry : Registry) (written : String) (entry : Registration) : Prop :=
  match entry.2 with
  | .action form => Registry.find registry.actions .action written = .ok ⟨entry.1, form⟩
  | .condition form => Registry.find registry.conditions .condition written = .ok ⟨entry.1, form⟩
  | .selector form => Registry.find registry.selectors .selector written = .ok ⟨entry.1, form⟩
  | .targeting form => Registry.find registry.targetings .targeting written = .ok ⟨entry.1, form⟩
  | .event scope => Registry.find registry.events .event written = .ok ⟨entry.1, scope⟩

section Tables

variable {form : Type} {part : form → Part}

lemma tableEntryAt_eq_some (hpart : Function.Injective part)
    {table : Table String (Registered form)} {key name : String} {f : form} :
    tableEntryAt part table key = some (name, part f) ↔ Table.get? table key = some ⟨name, f⟩ := by
  unfold tableEntryAt
  rw [Option.map_eq_some_iff]
  constructor
  · rintro ⟨⟨name', f'⟩, hget, heq⟩
    obtain ⟨rfl, hform⟩ := Prod.mk.inj heq
    obtain rfl : f' = f := hpart hform
    exact hget
  · exact fun hget => ⟨_, hget, rfl⟩

lemma tableEntryAt_insert (table : Table String (Registered form)) (key key' name : String)
    (f : form) :
    tableEntryAt part (Table.insert table key ⟨name, f⟩) key' =
      if key' = key then some (name, part f) else tableEntryAt part table key' := by
  unfold tableEntryAt
  split
  · next hkey => rw [hkey, Table.get?_insert_self, Option.map_some]
  · next hkey => rw [Table.get?_insert_of_ne _ _ (Ne.symm hkey)]

lemma find_congr (hpart : Function.Injective part) {table table' : Table String (Registered form)}
    (h : ∀ key, tableEntryAt part table' key = tableEntryAt part table key) (family : Family)
    (written : String) :
    Registry.find table' family written = Registry.find table family written := by
  have hget :
      Table.get? table' (RuleName.key written) = Table.get? table (RuleName.key written) := by
    refine Option.map_injective ?_ (h (RuleName.key written))
    rintro ⟨name, f⟩ ⟨name', f'⟩ heq
    obtain ⟨rfl, hform⟩ := Prod.mk.inj heq
    obtain rfl : f = f' := hpart hform
    rfl
  unfold Registry.find
  rw [hget]

end Tables

lemma finds_iff {registry : Registry} {written : String} {entry : Registration} :
    Finds registry written entry ↔
      entryAt registry entry.2.family (RuleName.key written) = some entry := by
  obtain ⟨name, part⟩ := entry
  cases part with
  | action form =>
    exact find_eq_ok.trans (tableEntryAt_eq_some fun _ _ h => Part.action.inj h).symm
  | condition form =>
    exact find_eq_ok.trans (tableEntryAt_eq_some fun _ _ h => Part.condition.inj h).symm
  | selector form =>
    exact find_eq_ok.trans (tableEntryAt_eq_some fun _ _ h => Part.selector.inj h).symm
  | targeting form =>
    exact find_eq_ok.trans (tableEntryAt_eq_some fun _ _ h => Part.targeting.inj h).symm
  | event scope =>
    exact find_eq_ok.trans (tableEntryAt_eq_some fun _ _ h => Part.event.inj h).symm

lemma isRegistered_eq (registry : Registry) (family : Family) (name : String) :
    registry.isRegistered family name = (entryAt registry family (RuleName.key name)).isSome := by
  cases family <;> simp [Registry.isRegistered, entryAt, tableEntryAt, Table.contains]

lemma entryAt_set (registry : Registry) (name : String) (part : Part) (family : Family)
    (key : String) :
    entryAt (registry.set name part) family key =
      if family = part.family ∧ key = RuleName.key name then some (name, part)
      else entryAt registry family key := by
  cases part <;> cases family <;>
    simp [entryAt, Registry.set, Part.family, tableEntryAt_insert]

/-! ### Readings -/

/-- Whether two registries read every record alike, and know the same names. -/
structure SameReadings (registry registry' : Registry) : Prop where
  action : registry'.action = registry.action
  change : registry'.change = registry.change
  condition : registry'.condition = registry.condition
  selector : registry'.selector = registry.selector
  targeting : registry'.targeting = registry.targeting
  event : registry'.event = registry.event
  effect : registry'.effect = registry.effect
  playerAura : registry'.playerAura = registry.playerAura
  minionAura : registry'.minionAura = registry.minionAura
  isRegistered : registry'.isRegistered = registry.isRegistered

section Readings

variable {registry registry' : Registry}

lemma mapM_congr_mem {ε α β : Type} {f g : α → Except ε β} {items : List α}
    (h : ∀ item ∈ items, f item = g item) : items.mapM f = items.mapM g := by
  induction items with
  | nil => rfl
  | cons item items ih =>
    rw [List.forall_mem_cons] at h
    rw [List.mapM_cons, List.mapM_cons, h.1, ih h.2]

/-- Conditions are read alike if their heads are. The induction is on the size of the record, since
the parts of a condition are smaller records. -/
lemma condition_congr (h : registry'.conditionHead = registry.conditionHead) (record : Json) :
    registry'.condition record = registry.condition record := by
  rw [Registry.condition_eq, Registry.condition_eq, h]
  cases hhead : registry.conditionHead record with
  | error fault => rfl
  | ok head =>
    have hparts : ∀ part ∈ head.records, registry'.condition part = registry.condition part :=
      fun part hpart =>
        have := Registry.sizeOf_conditionHead hhead hpart
        condition_congr h part
    cases head with
    | leaf condition => rfl
    | negation inner => exact congrArg (Except.map _) (hparts inner List.mem_cons_self)
    | all items => exact congrArg (Except.map _) (mapM_congr_mem hparts)
    | any items => exact congrArg (Except.map _) (mapM_congr_mem hparts)
termination_by sizeOf record

variable (h : ∀ family key, entryAt registry' family key = entryAt registry family key)

include h

lemma conditionHead_congr : registry'.conditionHead = registry.conditionHead := by
  have hfind := find_congr (fun _ _ h => Part.condition.inj h) (h .condition)
  funext record
  unfold Registry.conditionHead
  simp only [hfind]

lemma event_congr : registry'.event = registry.event := by
  have hget : ∀ key, Table.get? registry'.events key = Table.get? registry.events key := by
    intro key
    refine Option.map_injective ?_ (h .event key)
    rintro ⟨name, scope⟩ ⟨name', scope'⟩ heq
    cases heq
    rfl
  have hcondition : registry'.condition = registry.condition :=
    funext (condition_congr (conditionHead_congr h))
  funext record
  unfold Registry.event
  simp only [hget, hcondition]

lemma sameReadings_of_entries : SameReadings registry registry' := by
  have haction := find_congr (fun _ _ h => Part.action.inj h) (h .action)
  have hselector := find_congr (fun _ _ h => Part.selector.inj h) (h .selector)
  have htargeting := find_congr (fun _ _ h => Part.targeting.inj h) (h .targeting)
  have hactions : registry'.action = registry.action := by
    funext record
    unfold Registry.action
    simp only [haction]
  have hchanges : registry'.change = registry.change := by
    funext record
    unfold Registry.change
    simp only [haction]
  have hselectors : registry'.selector = registry.selector := by
    funext record
    unfold Registry.selector
    simp only [hselector]
  have htargetings : registry'.targeting = registry.targeting := by
    funext record
    unfold Registry.targeting
    simp only [htargeting]
  have hevents := event_congr h
  refine ⟨hactions, hchanges, funext (condition_congr (conditionHead_congr h)), hselectors,
    htargetings, hevents, ?_, ?_, ?_, ?_⟩
  · funext record
    unfold Registry.effect
    rw [hevents, hactions, htargetings]
  · funext record
    unfold Registry.playerAura
    rw [hevents, hchanges]
  · funext record
    unfold Registry.minionAura
    rw [hchanges, hselectors]
  · funext family name
    rw [isRegistered_eq, isRegistered_eq, h]

end Readings

end CardEffects.Proofs
