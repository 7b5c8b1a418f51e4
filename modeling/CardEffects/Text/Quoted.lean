import CardEffects.Text.HiddenTable

/-!
# Quoted text

A text between double quotes in which every character can be made out: one that would not show, or
would attach to the character before it, is spelled by its code point.
-/

namespace CardEffects

namespace Text

/-- Whether a character has an image of its own. The plain space counts as one. -/
def isVisible (c : Char) : Bool :=
  32 ≤ c.toNat && (c.toNat < 127 || !hiddenRuns.any (·.covers c.toNat))

/-- A character as it stands in a quoted text. -/
def escapeChar (c : Char) : List Char :=
  if c = '"' then ['\\', '"']
  else if c = '\\' then ['\\', '\\']
  else if c = '\n' then ['\\', 'n']
  else if c = '\r' then ['\\', 'r']
  else if c = '\t' then ['\\', 't']
  else if c.toNat = 0 then ['\\', '0']
  else if isVisible c then [c]
  else "\\u\x7b".toList ++ Nat.toDigits 16 c.toNat ++ ['\x7d']

/-- A text with its quotes. -/
def quote (text : String) : String :=
  "\"" ++ String.ofList (text.toList.flatMap escapeChar) ++ "\""

end Text

end CardEffects
