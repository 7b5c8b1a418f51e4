import CardEffects.Text.CaseTable

/-!
# Letter case

The full case mappings of Unicode, one character at a time: the mapping of a character does not
depend on its neighbours, and it may be longer than one character.
-/

namespace CardEffects

namespace Text

/-- The case mapping given by a list of runs and a list of expansions. -/
def mapCase (runs : List CaseRun) (expansions : List (Nat × List Nat)) (c : Char) : List Char :=
  match expansions.lookup c.toNat with
  | some codes => codes.map Char.ofNat
  | none =>
    match runs.find? (·.covers c.toNat) with
    | some run => [Char.ofNat (c.toNat + run.shift).toNat]
    | none => [c]

def upper (c : Char) : List Char :=
  if c.toNat < 128 then [c.toUpper] else mapCase upperRuns upperExpansions c

def lower (c : Char) : List Char :=
  if c.toNat < 128 then [c.toLower] else mapCase lowerRuns lowerExpansions c

theorem upper_of_ascii {c : Char} (h : c.toNat < 128) : upper c = [c.toUpper] :=
  if_pos h

theorem lower_of_ascii {c : Char} (h : c.toNat < 128) : lower c = [c.toLower] :=
  if_pos h

/-! ### ASCII letters -/

section Ascii

variable {c : Char} (hc : c.toNat < 128)

include hc

/-- What holds of the characters of the first 128 codes holds of every ASCII character. -/
theorem forall_ascii {p : Char → Prop} (h : ∀ n < 128, p (Char.ofNat n)) : p c := by
  have hcode := h c.toNat hc
  rwa [Char.ofNat_toNat] at hcode

theorem toUpper_toLower : c.toLower.toUpper = c.toUpper := by
  apply forall_ascii hc
  decide +kernel

theorem toLower_toUpper : c.toUpper.toLower = c.toLower := by
  apply forall_ascii hc
  decide +kernel

theorem toLower_toLower : c.toLower.toLower = c.toLower := by
  apply forall_ascii hc
  decide +kernel

theorem isUpper_toUpper : c.toUpper.isUpper = c.isAlpha := by
  apply forall_ascii hc
  decide +kernel

theorem isUpper_toLower : c.toLower.isUpper = false := by
  apply forall_ascii hc
  decide +kernel

theorem toLower_eq_self : c.isUpper = false → c.toLower = c := by
  apply forall_ascii hc
  decide +kernel

end Ascii

end Text

end CardEffects
