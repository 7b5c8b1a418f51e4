import CardEffects.Proofs.Registrations
import Mathlib.Data.List.SplitBy

/-!
# Keys of names

The key of a name keeps the words of the name and nothing else. A key shows where its words begin,
since just their first letters are in upper case, so that the words can be read off it as long as
each of them begins with a letter. A word that begins otherwise runs into the word before it.
-/

namespace CardEffects.Proofs

def Ascii (name : String) : Prop :=
  ∀ c ∈ name.toList, c.toNat < 128

/-- The words between the underscores of a name, in lower case and without the empty ones. -/
def lowerWords (name : String) : List (List Char) :=
  ((name.toList.splitOn '_').filter (· ≠ [])).map (·.map Char.toLower)

/-- Whether two names have the same words but for the case of letters. -/
def SameWords (name name' : String) : Prop :=
  lowerWords name = lowerWords name'

/-- Whether each word of a name begins with a letter. -/
def Lettered (name : String) : Prop :=
  ∀ word ∈ name.toList.splitOn '_', word ≠ [] → word.head?.any Char.isAlpha = true

instance (name name' : String) : Decidable (SameWords name name') :=
  inferInstanceAs (Decidable (lowerWords name = lowerWords name'))

instance (name : String) : Decidable (Lettered name) :=
  inferInstanceAs (Decidable (∀ word ∈ name.toList.splitOn '_', word ≠ [] →
    word.head?.any Char.isAlpha = true))

/-- Whether a name has no letters in upper case and a letter behind each underscore and at the
beginning. -/
structure SnakeCase (name : String) : Prop where
  ascii : Ascii name
  lower : ∀ c ∈ name.toList, c.isUpper = false
  lettered : ∀ word ∈ name.toList.splitOn '_', word.head?.any Char.isAlpha = true

/-! ### Words -/

lemma flatten_words (name : List Char) : (RuleName.words name).flatten = name.filter (· ≠ '_') := by
  induction name with
  | nil => rfl
  | cons c rest ih =>
    by_cases hc : c = '_'
    · simpa [RuleName.words, RuleName.split, hc] using ih
    · simpa [RuleName.words, RuleName.split, hc] using ih

lemma mem_of_mem_word {name word : List Char} (hword : word ∈ name.splitOn '_') {c : Char}
    (hc : c ∈ word) : c ∈ name := by
  rw [← RuleName.words_eq_splitOn] at hword
  have hmem : c ∈ (RuleName.words name).flatten := List.mem_flatten_of_mem hword hc
  rw [flatten_words] at hmem
  exact (List.mem_filter.mp hmem).1

lemma Ascii.word {name : String} (h : Ascii name) {word : List Char}
    (hword : word ∈ name.toList.splitOn '_') : ∀ c ∈ word, c.toNat < 128 := by
  intro c hc
  exact h c (mem_of_mem_word hword hc)

lemma capitalize_of_ascii {word : List Char} (h : ∀ c ∈ word, c.toNat < 128) :
    RuleName.capitalize word = (word.map Char.toLower).modifyHead Char.toUpper := by
  cases word with
  | nil => rfl
  | cons c rest =>
    rw [List.forall_mem_cons] at h
    have hrest : rest.flatMap Text.lower = rest.map Char.toLower := by
      rw [← List.flatMap_singleton' (rest.map Char.toLower), List.flatMap_map]
      exact List.flatMap_congr fun d hd => Text.lower_of_ascii (h.2 d hd)
    rw [RuleName.capitalize, Text.upper_of_ascii h.1, hrest, List.map_cons, List.modifyHead_cons,
      Text.toUpper_toLower h.1]
    rfl

lemma flatMap_capitalize {words : List (List Char)}
    (h : ∀ word ∈ words, ∀ c ∈ word, c.toNat < 128) :
    words.flatMap RuleName.capitalize =
      (((words.filter (· ≠ [])).map (·.map Char.toLower)).map
        (List.modifyHead Char.toUpper)).flatten := by
  induction words with
  | nil => rfl
  | cons word words ih =>
    rw [List.forall_mem_cons] at h
    rw [List.flatMap_cons, ih h.2, capitalize_of_ascii h.1]
    by_cases hword : word = []
    · simp [hword]
    · simp [hword]

lemma keyChars_eq {name : String} (h : Ascii name) :
    RuleName.keyChars name.toList =
      ((lowerWords name).map (List.modifyHead Char.toUpper)).flatten := by
  rw [RuleName.keyChars, RuleName.words_eq_splitOn]
  exact flatMap_capitalize fun word hword => h.word hword

/-! ### Reading words off a key -/

/-- Whether a word begins with a letter in upper case and has no other. -/
def Capital (word : List Char) : Prop :=
  ∃ c rest, word = c :: rest ∧ c.isUpper = true ∧ ∀ d ∈ rest, d.isUpper = false

/-- Words of this kind can be told apart when they are run together. -/
lemma splitBy_flatten_capitals {words : List (List Char)} (h : ∀ word ∈ words, Capital word) :
    words.flatten.splitBy (fun _ c => !c.isUpper) = words := by
  apply List.splitBy_flatten
  · intro hnil
    obtain ⟨c, rest, hword, -⟩ := h [] hnil
    cases hword
  · intro word hword
    obtain ⟨c, rest, rfl, -, hrest⟩ := h word hword
    refine List.Pairwise.isChain (List.pairwise_cons.mpr ⟨fun d hd => ?_, ?_⟩)
    · rw [hrest d hd, Bool.not_false]
    · exact List.pairwise_of_forall_mem_list fun _ _ d hd => by rw [hrest d hd, Bool.not_false]
  · refine List.Pairwise.isChain (List.pairwise_of_forall_mem_list fun word hword next hnext => ?_)
    obtain ⟨c, rest, rfl, -⟩ := h word hword
    obtain ⟨d, rest', rfl, hd, -⟩ := h next hnext
    refine ⟨List.cons_ne_nil _ _, List.cons_ne_nil _ _, ?_⟩
    rw [List.head_cons, hd, Bool.not_true]

section Keys

variable {name name' : String}

lemma mem_lowerWords {word : List Char} :
    word ∈ lowerWords name ↔
      ∃ written ∈ name.toList.splitOn '_', written ≠ [] ∧ written.map Char.toLower = word := by
  simp [lowerWords, and_assoc]

lemma capital_of_mem_lowerWords (hascii : Ascii name) (hletters : Lettered name)
    {word : List Char} (hword : word ∈ lowerWords name) :
    Capital (word.modifyHead Char.toUpper) := by
  obtain ⟨written, hwritten, hne, rfl⟩ := mem_lowerWords.mp hword
  have hletter := hletters written hwritten hne
  have hchars := hascii.word hwritten
  cases written with
  | nil => exact absurd rfl hne
  | cons c rest =>
    rw [List.forall_mem_cons] at hchars
    refine ⟨c.toLower.toUpper, rest.map Char.toLower, rfl, ?_, fun d hd => ?_⟩
    · rw [Text.toUpper_toLower hchars.1, Text.isUpper_toUpper hchars.1]
      simpa using hletter
    · obtain ⟨d', hd', rfl⟩ := List.mem_map.mp hd
      exact Text.isUpper_toLower (hchars.2 d' hd')

lemma map_toLower_modifyHead (hascii : Ascii name) {word : List Char}
    (hword : word ∈ lowerWords name) :
    (word.modifyHead Char.toUpper).map Char.toLower = word := by
  obtain ⟨written, hwritten, -, rfl⟩ := mem_lowerWords.mp hword
  have hchars := hascii.word hwritten
  cases written with
  | nil => rfl
  | cons c rest =>
    rw [List.forall_mem_cons] at hchars
    have hrest : (rest.map Char.toLower).map Char.toLower = rest.map Char.toLower := by
      rw [List.map_map]
      exact List.map_congr_left fun d hd => Text.toLower_toLower (hchars.2 d hd)
    rw [List.map_cons, List.modifyHead_cons, List.map_cons, hrest, Text.toUpper_toLower hchars.1,
      Text.toLower_toUpper hchars.1]

lemma lowerWords_eq (hascii : Ascii name) (hletters : Lettered name) :
    lowerWords name =
      ((RuleName.keyChars name.toList).splitBy fun _ c => !c.isUpper).map
        (·.map Char.toLower) := by
  have hcapitals : ∀ word ∈ (lowerWords name).map (List.modifyHead Char.toUpper),
      Capital word := by
    intro word hword
    obtain ⟨lower, hlower, rfl⟩ := List.mem_map.mp hword
    exact capital_of_mem_lowerWords hascii hletters hlower
  rw [keyChars_eq hascii, splitBy_flatten_capitals hcapitals, List.map_map]
  symm
  exact (List.map_congr_left fun word hword => map_toLower_modifyHead hascii hword).trans
    (List.map_id _)

lemma key_eq_iff : RuleName.key name = RuleName.key name' ↔
    RuleName.keyChars name.toList = RuleName.keyChars name'.toList :=
  String.ofList_inj

lemma key_eq_of_sameWords (h : Ascii name) (h' : Ascii name') (hsame : SameWords name name') :
    RuleName.key name = RuleName.key name' := by
  rw [key_eq_iff, keyChars_eq h, keyChars_eq h', hsame]

lemma key_eq_iff_sameWords (hascii : Ascii name) (hascii' : Ascii name')
    (hletters : Lettered name) (hletters' : Lettered name') :
    RuleName.key name = RuleName.key name' ↔ SameWords name name' := by
  constructor
  · intro hkey
    unfold SameWords
    rw [lowerWords_eq hascii hletters, lowerWords_eq hascii' hletters', key_eq_iff.mp hkey]
  · exact key_eq_of_sameWords hascii hascii'

-- A word that begins with a digit runs into the word before it.
example : RuleName.key "area_51" = RuleName.key "area51" := by decide

lemma key_append (name name' : String) :
    RuleName.key (name ++ "_" ++ name') = RuleName.key name ++ RuleName.key name' := by
  have htext : (name ++ "_" ++ name').toList = name.toList ++ '_' :: name'.toList := by simp
  unfold RuleName.key RuleName.keyChars
  rw [htext, RuleName.words_eq_splitOn, RuleName.words_eq_splitOn, RuleName.words_eq_splitOn,
    List.splitOn_append_cons_self, List.flatMap_append, String.ofList_append]

/-! ### Names in snake case -/

lemma SnakeCase.ne_nil (h : SnakeCase name) {word : List Char}
    (hword : word ∈ name.toList.splitOn '_') : word ≠ [] := by
  rintro rfl
  cases h.lettered [] hword

lemma SnakeCase.lowerWords_eq (h : SnakeCase name) :
    lowerWords name = name.toList.splitOn '_' := by
  have hall : (name.toList.splitOn '_').filter (· ≠ []) = name.toList.splitOn '_' :=
    List.filter_eq_self.mpr fun word hword => decide_eq_true (h.ne_nil hword)
  have hlower : ∀ word ∈ name.toList.splitOn '_', word.map Char.toLower = word := by
    intro word hword
    have hkept : ∀ c ∈ word, c.toLower = c := by
      intro c hc
      have hmem := mem_of_mem_word hword hc
      exact Text.toLower_eq_self (h.ascii c hmem) (h.lower c hmem)
    exact (List.map_congr_left hkept).trans (List.map_id _)
  rw [lowerWords, hall]
  exact (List.map_congr_left hlower).trans (List.map_id _)

lemma SnakeCase.eq_of_key_eq (h : SnakeCase name) (h' : SnakeCase name')
    (hkey : RuleName.key name = RuleName.key name') : name = name' := by
  have hsame : SameWords name name' :=
    (key_eq_iff_sameWords h.ascii h'.ascii (fun word hword _ => h.lettered word hword)
      (fun word hword _ => h'.lettered word hword)).mp hkey
  rw [SameWords, h.lowerWords_eq, h'.lowerWords_eq] at hsame
  -- The names are these words with underscores between them.
  have htext := congrArg (List.intercalate ['_']) hsame
  rw [List.intercalate_splitOn, List.intercalate_splitOn] at htext
  exact String.toList_inj.mp htext

/-! ### Registered names -/

variable {registry registry' : Registry} {part : Part}

lemma entryAt_register (h : registry.register name part = .ok registry') (family : Family)
    (key : String) :
    entryAt registry' family key =
      if family = part.family ∧ key = RuleName.key name then some (name, part)
      else entryAt registry family key := by
  rcases register_cases registry (name, part) with ⟨-, hregister⟩ | ⟨-, hregister⟩
  · rw [hregister] at h
    cases h
  · rw [hregister] at h
    cases h
    exact entryAt_set registry name part family key

end Keys

/-- Of ASCII names whose words all begin with letters, two have the same key exactly if they have
the same words but for case; an underscore between any two texts leaves their keys side by side. So
a name in snake case is registered as if no other such name were, and a registered name is found in
any other spelling of its words. -/
theorem keys_tell_words :
    (∀ name name' : String, Ascii name → Ascii name' → Lettered name → Lettered name' →
      (RuleName.key name = RuleName.key name' ↔ SameWords name name')) ∧
    (∀ name name' : String,
      RuleName.key (name ++ "_" ++ name') = RuleName.key name ++ RuleName.key name') ∧
    (∀ (registry registry' : Registry) (name other : String) (part : Part),
      SnakeCase name → SnakeCase other → name ≠ other →
      registry.register name part = .ok registry' →
      (∀ later, (registry'.register other later).isOk = (registry.register other later).isOk) ∧
        ∀ entry, Finds registry' other entry ↔ Finds registry other entry) ∧
    ∀ (registry registry' : Registry) (name spelling : String) (part : Part),
      Ascii name → Ascii spelling → SameWords name spelling →
      registry.register name part = .ok registry' →
      registry'.isRegistered part.family spelling = true ∧
        Finds registry' spelling (name, part) := by
  refine ⟨fun name name' => key_eq_iff_sameWords, key_append, ?_, ?_⟩
  · intro registry registry' name other part hname hother hne hregister
    have hkey : RuleName.key other ≠ RuleName.key name := by
      intro hkey
      exact hne (hother.eq_of_key_eq hname hkey).symm
    have hentry : ∀ family, entryAt registry' family (RuleName.key other) =
        entryAt registry family (RuleName.key other) := by
      intro family
      rw [entryAt_register hregister, if_neg fun h => hkey h.2]
    refine ⟨fun later => ?_, fun entry => ?_⟩
    · unfold Registry.register
      rw [isRegistered_eq, isRegistered_eq, hentry]
      split <;> rfl
    · rw [finds_iff, finds_iff, hentry]
  · intro registry registry' name spelling part hname hspelling hsame hregister
    have hentry : entryAt registry' part.family (RuleName.key spelling) = some (name, part) := by
      rw [← key_eq_of_sameWords hname hspelling hsame, entryAt_register hregister,
        if_pos ⟨rfl, rfl⟩]
    refine ⟨?_, finds_iff.mpr hentry⟩
    rw [isRegistered_eq, hentry, Option.isSome_some]

/-- Two names in snake case whose letters are the same, and a third spelling of one of them. -/
theorem overkill_keys_tell_words :
    Ascii "overkill" ∧ Ascii "__OverKILL" ∧ Lettered "overkill" ∧ Lettered "__OverKILL" ∧
      SnakeCase "overkill" ∧ SnakeCase "over_kill" ∧ "overkill" ≠ "over_kill" ∧
      SameWords "overkill" "__OverKILL" ∧
      RuleName.key "overkill" = RuleName.key "__OverKILL" ∧
      ∃ registry, Registry.standard.register "overkill" (.event .minion) = .ok registry ∧
        (registry.register "over_kill" (.event .player)).isOk = true ∧
        Finds registry "__OverKILL" ("overkill", .event .minion) := by
  obtain ⟨hkeys, -, hapart, hfound⟩ := keys_tell_words
  have hascii : Ascii "overkill" := by simp [Ascii]
  have hascii' : Ascii "__OverKILL" := by simp [Ascii]
  have hletters : Lettered "overkill" := by decide +kernel
  have hletters' : Lettered "__OverKILL" := by decide +kernel
  have hsnake : SnakeCase "overkill" := ⟨hascii, by simp, by decide +kernel⟩
  have hsnake' : SnakeCase "over_kill" := ⟨by simp [Ascii], by simp, by decide +kernel⟩
  have hne : "overkill" ≠ "over_kill" := by decide
  have hsame : SameWords "overkill" "__OverKILL" := by decide +kernel
  obtain ⟨registry, hregister⟩ :
      ∃ registry, Registry.standard.register "overkill" (.event .minion) = .ok registry :=
    ⟨_, rfl⟩
  have hfree : (Registry.standard.register "over_kill" (.event .player)).isOk = true := by
    decide +kernel
  refine ⟨hascii, hascii', hletters, hletters', hsnake, hsnake', hne, hsame,
    (hkeys _ _ hascii hascii' hletters hletters').mpr hsame, registry, hregister, ?_, ?_⟩
  · rw [(hapart _ _ _ _ _ hsnake hsnake' hne hregister).1, hfree]
  · exact (hfound _ _ _ _ _ hascii hascii' hsame hregister).2

end CardEffects.Proofs
