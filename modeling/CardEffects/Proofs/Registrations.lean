import CardEffects.Proofs.NameLookups

/-!
# Registrations

What a run of registrations comes to, on the empty registry or on the built-in one. The entries of
a registry are those of a list in which no two have the same name: the entries it began with, then
the calls it accepted.
-/

namespace CardEffects.Proofs

/-- Whether two registrations are of one family and have names with the same key. -/
def SameName (entry entry' : Registration) : Prop :=
  entry.2.family = entry'.2.family ∧ RuleName.key entry.1 = RuleName.key entry'.1

instance : DecidableRel SameName := fun _ _ => inferInstanceAs (Decidable (_ ∧ _))

/-- The registry after a call. A refused call leaves it as it was. -/
def enroll (registry : Registry) (call : Registration) : Registry :=
  match registry.register call.1 call.2 with
  | .ok registry' => registry'
  | .error _ => registry

def enrolled (registry : Registry) (calls : List Registration) : Registry :=
  calls.foldl enroll registry

/-- The calls of a run that are accepted, in their order. -/
def accepted (registry : Registry) : List Registration → List Registration
  | [] => []
  | call :: calls =>
    match registry.register call.1 call.2 with
    | .ok registry' => call :: accepted registry' calls
    | .error _ => accepted registry calls

/-- A registry to begin with, and its entries. -/
inductive Beginning : Registry → List Registration → Prop
  | empty : Beginning { } []
  | standard : Beginning Registry.standard Registry.standardParts

/-- Whether the entries of a registry are those of a list, in which no two have the same name. -/
structure Lists (registry : Registry) (known : List Registration) : Prop where
  apart : known.Pairwise fun entry entry' => ¬ SameName entry entry'
  entry_iff : ∀ {family : Family} {key : String} {entry : Registration},
    entryAt registry family key = some entry ↔
      entry ∈ known ∧ entry.2.family = family ∧ RuleName.key entry.1 = key

/-- Whether records that write a name are read by the form of an entry, and under its name. -/
def Uses (registry : Registry) (written : String) (entry : Registration) : Prop :=
  match entry.2 with
  | .action form => ∀ record params,
    Record.nameAndParams .action Record.typeTag record = .ok (written, params) →
      registry.action record = form.read entry.1 params
  | .condition form => ∀ record params,
    Record.nameAndParams .condition Record.typeTag record = .ok (written, params) →
      registry.conditionHead record = form.read entry.1 params
  | .selector form => ∀ record params,
    Record.nameAndParams .selector Record.typeTag record = .ok (written, params) →
      registry.selector record = form.read entry.1 params
  | .targeting form => ∀ record params,
    Record.nameAndParams .targeting Record.typeTag record = .ok (written, params) →
      registry.targeting record = form.read entry.1 params
  | .event scope => ∀ given,
    occurrence registry written given = .ok (entry.1, given.getD scope)

/-- Whether a record writes a name that stands for an action that may not be taken back. -/
def NamesIrreversible (registry : Registry) (record : Json) (written : String) : Prop :=
  ∃ params entry, Record.nameAndParams .action Record.typeTag record = .ok (written, params) ∧
    Registry.find registry.actions .action written = .ok entry ∧
    ∀ form, entry.form ≠ .change form true

/-- What a run of registrations comes to, from a registry with the given entries. -/
structure RegistrationLaws (start : Registry) (known : List Registration) : Prop where
  /-- A call is refused just if an entry of its family is there that has the same key. -/
  refused_iff : ∀ calls call taken,
    (enrolled start calls).register call.1 call.2 = .error taken ↔
      taken = ⟨call.2.family, call.1⟩ ∧
        ∃ entry ∈ known ++ accepted start calls, SameName entry call
  /-- A refused call leaves the registry as it was, now and for the calls after it. -/
  refused_drops : ∀ calls call taken,
    (enrolled start calls).register call.1 call.2 = .error taken →
      enroll (enrolled start calls) call = enrolled start calls ∧ ∀ later,
        enrolled start (calls ++ call :: later) = enrolled start (calls ++ later) ∧
          accepted start (calls ++ call :: later) = accepted start (calls ++ later)
  /-- The calls of other families do not matter to the names of a family. -/
  families_apart : ∀ calls family,
    (accepted start calls).filter (·.2.family = family) =
        accepted start (calls.filter (·.2.family = family)) ∧
      ∀ key, entryAt (enrolled start (calls.filter (·.2.family = family))) family key =
        entryAt (enrolled start calls) family key
  isRegistered_iff : ∀ calls family name,
    (enrolled start calls).isRegistered family name = true ↔
      ∃ entry ∈ known ++ accepted start calls,
        entry.2.family = family ∧ RuleName.key entry.1 = RuleName.key name
  /-- A name is looked up to the one entry of its key. -/
  finds_iff : ∀ calls written entry, Finds (enrolled start calls) written entry ↔
    entry ∈ known ++ accepted start calls ∧ RuleName.key entry.1 = RuleName.key written
  apart : ∀ calls,
    (known ++ accepted start calls).Pairwise fun entry entry' => ¬ SameName entry entry'
  /-- What is looked up is what reads the records. -/
  uses : ∀ calls written entry, Finds (enrolled start calls) written entry →
    Uses (enrolled start calls) written entry
  /-- The order of the accepted calls does not matter to the readers. -/
  order_free : ∀ calls order, order.Perm (accepted start calls) →
    accepted start order = order ∧ SameReadings (enrolled start calls) (enrolled start order)

/-- How reading a record as a change compares with reading it as an action. -/
structure ChangeReadings (registry : Registry) (record : Json) : Prop where
  irreversible : ∀ written, NamesIrreversible registry record written →
    registry.change record = .error (.notReversible written)
  same_record : (∀ written, ¬ NamesIrreversible registry record written) →
    (registry.action record).map Action.toRecord = (registry.change record).map StatChange.toRecord

lemma SameName.symm {entry entry' : Registration} (h : SameName entry entry') :
    SameName entry' entry :=
  ⟨h.1.symm, h.2.symm⟩

section Calls

variable {registry registry' : Registry} {known : List Registration} {call : Registration}

lemma register_cases (registry : Registry) (call : Registration) :
    (registry.isRegistered call.2.family call.1 = true ∧
      registry.register call.1 call.2 = .error ⟨call.2.family, call.1⟩) ∨
    (registry.isRegistered call.2.family call.1 = false ∧
      registry.register call.1 call.2 = .ok (registry.set call.1 call.2)) := by
  unfold Registry.register
  cases hregistered : registry.isRegistered call.2.family call.1 with
  | true => exact .inl ⟨rfl, rfl⟩
  | false => exact .inr ⟨rfl, rfl⟩

lemma register_eq_error {taken : NameTaken} :
    registry.register call.1 call.2 = .error taken ↔
      taken = ⟨call.2.family, call.1⟩ ∧ registry.isRegistered call.2.family call.1 = true := by
  rcases register_cases registry call with ⟨hregistered, hregister⟩ | ⟨hfree, hregister⟩
  · simp [hregister, hregistered, eq_comm]
  · simp [hregister, hfree]

lemma enroll_of_refused {taken : NameTaken}
    (h : registry.register call.1 call.2 = .error taken) : enroll registry call = registry := by
  unfold enroll
  rw [h]

lemma enrolled_append (registry : Registry) (calls later : List Registration) :
    enrolled registry (calls ++ later) = enrolled (enrolled registry calls) later :=
  List.foldl_append

lemma accepted_append (registry : Registry) (calls later : List Registration) :
    accepted registry (calls ++ later) =
      accepted registry calls ++ accepted (enrolled registry calls) later := by
  induction calls generalizing registry with
  | nil => rfl
  | cons call calls ih =>
    rw [List.cons_append, accepted, accepted, enrolled, List.foldl_cons, enroll]
    cases registry.register call.1 call.2 with
    | ok registry' => exact congrArg (call :: ·) (ih registry')
    | error taken => exact ih registry

lemma refused_drops {calls : List Registration} {taken : NameTaken}
    (h : (enrolled registry calls).register call.1 call.2 = .error taken)
    (later : List Registration) :
    enrolled registry (calls ++ call :: later) = enrolled registry (calls ++ later) ∧
      accepted registry (calls ++ call :: later) = accepted registry (calls ++ later) := by
  rw [enrolled_append, enrolled_append, accepted_append, accepted_append, accepted, h]
  exact ⟨congrArg (List.foldl enroll · later) (enroll_of_refused h), rfl⟩

/-! ### The entries of a registry -/

lemma Lists.isRegistered_iff (h : Lists registry known) (family : Family) (name : String) :
    registry.isRegistered family name = true ↔
      ∃ entry ∈ known, entry.2.family = family ∧ RuleName.key entry.1 = RuleName.key name := by
  rw [isRegistered_eq, Option.isSome_iff_exists]
  exact exists_congr fun entry => h.entry_iff

lemma Lists.finds_iff (h : Lists registry known) {written : String} {entry : Registration} :
    Finds registry written entry ↔
      entry ∈ known ∧ RuleName.key entry.1 = RuleName.key written := by
  rw [CardEffects.Proofs.finds_iff, h.entry_iff]
  simp only [true_and]

lemma Lists.set (h : Lists registry known)
    (hfree : registry.isRegistered call.2.family call.1 = false) :
    Lists (registry.set call.1 call.2) (known ++ [call]) := by
  have hnone : ∀ entry ∈ known, ¬ SameName entry call := by
    intro entry hentry hsame
    have hregistered := (h.isRegistered_iff call.2.family call.1).mpr ⟨entry, hentry, hsame⟩
    rw [hfree] at hregistered
    cases hregistered
  refine ⟨List.pairwise_append.mpr ⟨h.apart, List.pairwise_singleton _ _, ?_⟩, ?_⟩
  · intro entry hentry call' hcall
    rw [List.mem_singleton.mp hcall]
    exact hnone entry hentry
  · intro family key entry
    rw [entryAt_set, List.mem_append, List.mem_singleton]
    split
    · next hcall =>
      constructor
      · rintro ⟨⟩
        exact ⟨.inr rfl, hcall.1.symm, hcall.2.symm⟩
      · rintro ⟨hentry | rfl, hfamily, hkey⟩
        · exact absurd ⟨hfamily.trans hcall.1, hkey.trans hcall.2⟩ (hnone entry hentry)
        · rfl
    · next hcall =>
      rw [h.entry_iff]
      constructor
      · exact fun ⟨hentry, hnamed⟩ => ⟨.inl hentry, hnamed⟩
      · rintro ⟨hentry | rfl, hfamily, hkey⟩
        · exact ⟨hentry, hfamily, hkey⟩
        · exact absurd ⟨hfamily.symm, hkey.symm⟩ hcall

lemma Lists.enrolled {calls : List Registration} (h : Lists registry known) :
    Lists (enrolled registry calls) (known ++ accepted registry calls) := by
  induction calls generalizing registry known with
  | nil =>
    rw [accepted, List.append_nil]
    exact h
  | cons call calls ih =>
    rw [Proofs.enrolled, List.foldl_cons, enroll, accepted]
    rcases register_cases registry call with ⟨-, hregister⟩ | ⟨hfree, hregister⟩
    · rw [hregister]
      exact ih h
    · rw [hregister]
      have := ih (h.set hfree)
      rwa [List.append_assoc] at this

lemma Lists.accepted_of_apart {calls : List Registration} (h : Lists registry known)
    (hapart : (known ++ calls).Pairwise fun entry entry' => ¬ SameName entry entry') :
    accepted registry calls = calls ∧
      Proofs.enrolled registry calls =
        calls.foldl (fun registry call => registry.set call.1 call.2) registry := by
  induction calls generalizing registry known with
  | nil => exact ⟨rfl, rfl⟩
  | cons call calls ih =>
    rcases register_cases registry call with ⟨hregistered, -⟩ | ⟨hfree, hregister⟩
    · obtain ⟨entry, hentry, hsame⟩ := (h.isRegistered_iff _ _).mp hregistered
      have hcross := (List.pairwise_append.mp hapart).2.2
      exact absurd hsame (hcross entry hentry call List.mem_cons_self)
    · rw [List.append_cons] at hapart
      obtain ⟨haccepted, henrolled⟩ := ih (h.set hfree) hapart
      rw [accepted, Proofs.enrolled, List.foldl_cons, enroll, hregister]
      exact ⟨congrArg (call :: ·) haccepted, henrolled⟩

lemma Lists.sameReadings {known' : List Registration} (h : Lists registry known)
    (h' : Lists registry' known') (hperm : known'.Perm known) :
    SameReadings registry registry' := by
  refine sameReadings_of_entries fun family key => Option.ext fun entry => ?_
  rw [h.entry_iff, h'.entry_iff, hperm.mem_iff]

lemma uses_of_finds {written : String} {entry : Registration} (h : Finds registry written entry) :
    Uses registry written entry := by
  obtain ⟨name, part⟩ := entry
  cases part with
  | action form =>
    intro record params hname
    simp only [Finds] at h
    simp only [Registry.action, hname, h, bind, Except.bind]
  | condition form =>
    intro record params hname
    simp only [Finds] at h
    simp only [Registry.conditionHead, hname, h, bind, Except.bind]
  | selector form =>
    intro record params hname
    simp only [Finds] at h
    simp only [Registry.selector, hname, h, bind, Except.bind]
  | targeting form =>
    intro record params hname
    simp only [Finds] at h
    simp only [Registry.targeting, hname, h, bind, Except.bind]
  | event scope =>
    intro given
    unfold occurrence
    rw [find_eq_ok.mp h]

/-! ### Families -/

lemma entryAt_enroll_of_ne {family : Family} (hne : call.2.family ≠ family) (key : String) :
    entryAt (enroll registry call) family key = entryAt registry family key := by
  unfold enroll
  rcases register_cases registry call with ⟨-, hregister⟩ | ⟨-, hregister⟩
  · rw [hregister]
  · rw [hregister, entryAt_set, if_neg fun hcall => hne hcall.1.symm]

/-- Calls of one family go the same way on two registries that agree on the family, whatever calls
of other families come between them. -/
lemma accepted_filter {family : Family}
    (h : ∀ key, entryAt registry' family key = entryAt registry family key)
    (calls : List Registration) :
    (accepted registry calls).filter (·.2.family = family) =
        accepted registry' (calls.filter (·.2.family = family)) ∧
      ∀ key, entryAt (enrolled registry' (calls.filter (·.2.family = family))) family key =
        entryAt (enrolled registry calls) family key := by
  induction calls generalizing registry registry' with
  | nil => exact ⟨rfl, h⟩
  | cons call calls ih =>
    by_cases hfamily : call.2.family = family
    · have hregistered : registry'.isRegistered call.2.family call.1 =
          registry.isRegistered call.2.family call.1 := by
        rw [isRegistered_eq, isRegistered_eq, hfamily, h]
      rw [List.filter_cons_of_pos (by simpa using hfamily), enrolled, enrolled, List.foldl_cons,
        List.foldl_cons, enroll, enroll, accepted, accepted]
      rcases register_cases registry call with ⟨htaken, hregister⟩ | ⟨hfree, hregister⟩
      · have hregister' := register_eq_error.mpr ⟨rfl, hregistered.trans htaken⟩
        rw [hregister, hregister']
        exact ih h
      · have hregister' : registry'.register call.1 call.2 = .ok (registry'.set call.1 call.2) := by
          rw [Registry.register, hregistered, hfree]
          rfl
        rw [hregister, hregister', List.filter_cons_of_pos (by simpa using hfamily)]
        have hset : ∀ key, entryAt (registry'.set call.1 call.2) family key =
            entryAt (registry.set call.1 call.2) family key := fun key => by
          rw [entryAt_set, entryAt_set, h]
        exact ⟨congrArg (call :: ·) (ih hset).1, (ih hset).2⟩
    · have hkept : ∀ key,
          entryAt registry' family key = entryAt (enroll registry call) family key := fun key => by
        rw [entryAt_enroll_of_ne hfamily, h]
      have hdropped : (accepted registry (call :: calls)).filter (·.2.family = family) =
          (accepted (enroll registry call) calls).filter (·.2.family = family) := by
        rw [accepted, enroll]
        cases registry.register call.1 call.2 with
        | ok registry' => exact List.filter_cons_of_neg (by simpa using hfamily)
        | error taken => rfl
      rw [List.filter_cons_of_neg (by simpa using hfamily), hdropped]
      exact ih hkept

end Calls

/-! ### Where runs begin -/

lemma lists_empty : Lists { } [] where
  apart := List.Pairwise.nil
  entry_iff := by
    intro family key entry
    cases family <;> simp [entryAt, tableEntryAt, Table.get?]

lemma standardParts_apart :
    Registry.standardParts.Pairwise fun entry entry' => ¬ SameName entry entry' := by
  decide +kernel

/-- The built-in registry is what registering the built-in parts one after another comes to. -/
lemma enrolled_standardParts :
    accepted { } Registry.standardParts = Registry.standardParts ∧
      enrolled { } Registry.standardParts = Registry.standard :=
  lists_empty.accepted_of_apart standardParts_apart

lemma Beginning.lists {start : Registry} {known : List Registration} (h : Beginning start known) :
    Lists start known := by
  cases h with
  | empty => exact lists_empty
  | standard =>
    have hlists : Lists (enrolled { } Registry.standardParts)
        ([] ++ accepted { } Registry.standardParts) := lists_empty.enrolled
    rwa [enrolled_standardParts.1, enrolled_standardParts.2] at hlists

lemma Lists.registrationLaws {start : Registry} {known : List Registration}
    (h : Lists start known) : RegistrationLaws start known where
  refused_iff calls call taken := by
    rw [register_eq_error, h.enrolled.isRegistered_iff]
    rfl
  refused_drops calls call taken hrefused :=
    ⟨enroll_of_refused hrefused, refused_drops hrefused⟩
  families_apart calls family := accepted_filter (fun _ => rfl) calls
  isRegistered_iff calls family name := h.enrolled.isRegistered_iff family name
  finds_iff calls written entry := h.enrolled.finds_iff
  apart calls := h.enrolled.apart
  uses calls written entry := uses_of_finds
  order_free calls order horder := by
    have hapart : (known ++ order).Pairwise fun entry entry' => ¬ SameName entry entry' :=
      ((horder.append_left known).pairwise_iff fun hne hsame => hne hsame.symm).mpr h.enrolled.apart
    have haccepted := (h.accepted_of_apart hapart).1
    refine ⟨haccepted, h.enrolled.sameReadings h.enrolled ?_⟩
    rw [haccepted]
    exact horder.append_left known

/-! ### Changes and actions -/

lemma changeReadings (registry : Registry) (record : Json) : ChangeReadings registry record := by
  constructor
  · rintro written ⟨params, ⟨name, form⟩, hname, hfind, hirreversible⟩
    simp only [Registry.change, hname, hfind, bind, Except.bind]
  · intro hreversible
    unfold Registry.action Registry.change
    cases hname : Record.nameAndParams .action Record.typeTag record with
    | error fault => rfl
    | ok found =>
      simp only [bind, Except.bind]
      cases hfind : Registry.find registry.actions .action found.1 with
      | error fault => rfl
      | ok entry =>
        have hform : ∃ form, entry.form = .change form true := by
          by_contra hnone
          exact hreversible found.1 ⟨found.2, entry, hname, hfind, not_exists.mp hnone⟩
        obtain ⟨form, hform⟩ := hform
        simp only [hform, ActionForm.read]
        cases form.read entry.name found.2 <;> rfl

/-- From the empty registry and from the built-in one, a run of registrations accepts the calls
whose names are free in their families and looks each name up to the one entry of its key, so the
order of the accepted calls does not matter. A record is read as a change just as it is read as an
action, unless its name stands for an action that may not be taken back. -/
theorem registrations_lawful {start : Registry} {known : List Registration}
    (h : Beginning start known) :
    RegistrationLaws start known ∧ ∀ registry record, ChangeReadings registry record :=
  ⟨h.lists.registrationLaws, changeReadings⟩

/-- A second spelling of a built-in name is refused, and damage is read as no change. -/
theorem standard_registrations_lawful :
    Beginning Registry.standard Registry.standardParts ∧
      (enrolled Registry.standard []).register "HEAL_" (.action .damage) =
        .error ⟨.action, "HEAL_"⟩ ∧
      (enrolled Registry.standard []).change (Record.named "DAMAGE" [("amount", .null)]) =
        .error (.notReversible "DAMAGE") := by
  have hlaws := registrations_lawful .standard
  have hheal : ("heal", .action .heal) ∈ Registry.standardParts := by simp [Registry.standardParts]
  have hdamage : ("damage", .action .damage) ∈ Registry.standardParts := by
    simp [Registry.standardParts]
  have hfind : Finds (enrolled Registry.standard []) "DAMAGE" ("damage", .action .damage) :=
    (hlaws.1.finds_iff [] _ _).mpr ⟨List.mem_append_left _ hdamage, by decide⟩
  refine ⟨.standard, ?_, ?_⟩
  · exact (hlaws.1.refused_iff [] ("HEAL_", .action .damage) _).mpr
      ⟨rfl, _, List.mem_append_left _ hheal, by decide⟩
  · exact (hlaws.2 _ _).irreversible _ ⟨[("amount", .null)], _, rfl, hfind, fun form => nofun⟩

end CardEffects.Proofs
