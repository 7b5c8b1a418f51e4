import CardEffects.Text.Casing

/-!
# Rule names

Rule parts are looked up by the words of their names. Words are separated by underscores, and
neither the number of underscores nor the case of the letters matters: `change_attack`,
`Change__Attack` and `CHANGE_ATTACK` have the key `ChangeAttack`.
-/

namespace CardEffects

namespace RuleName

/-- The first word of a name, and the words after it. -/
def split : List Char → List Char × List (List Char)
  | [] => ([], [])
  | c :: rest =>
    if c = '_' then ([], (split rest).1 :: (split rest).2)
    else (c :: (split rest).1, (split rest).2)

/-- The words of a name. Two adjacent underscores have an empty word between them. -/
def words (name : List Char) : List (List Char) :=
  (split name).1 :: (split name).2

/-- A word with its first letter in upper case and the others in lower case. -/
def capitalize : List Char → List Char
  | [] => []
  | c :: rest => Text.upper c ++ rest.flatMap Text.lower

def keyChars (name : List Char) : List Char :=
  (words name).flatMap capitalize

/-- The key a name is looked up by. -/
def key (name : String) : String :=
  String.ofList (keyChars name.toList)

theorem words_eq_splitOn (name : List Char) : words name = name.splitOn '_' := by
  induction name with
  | nil => rfl
  | cons c rest ih =>
    rw [List.splitOn_cons_eq_if_modifyHead, ← ih]
    by_cases hc : c = '_'
    · simp [words, split, hc]
    · simp [words, split, hc]

end RuleName

end CardEffects
