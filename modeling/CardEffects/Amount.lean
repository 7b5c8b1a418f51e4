/-!
# Amounts

Stats and the numbers rules carry are signed and 64 bits wide. Sums that leave the range have no
value; the one exception is `saturatingAdd`, which stops at the nearest end.
-/

namespace CardEffects

/-- A signed number of 64 bits. -/
structure Amount where
  val : Int
  ge_min : -9223372036854775808 ≤ val := by decide
  le_max : val ≤ 9223372036854775807 := by decide
  deriving DecidableEq

namespace Amount

instance : Inhabited Amount := ⟨{ val := 0 }⟩

def zero : Amount := { val := 0 }

/-- One unit, the weight of one taunt grant. -/
def one : Amount := { val := 1 }

/-- The amount equal to an integer, if the integer is in range. -/
def ofInt? (n : Int) : Option Amount :=
  if h : -9223372036854775808 ≤ n ∧ n ≤ 9223372036854775807 then some ⟨n, h.1, h.2⟩ else none

/-- The exact sum, if it is in range. -/
def add? (a b : Amount) : Option Amount :=
  ofInt? (a.val + b.val)

/-- The exact difference, if it is in range. -/
def sub? (a b : Amount) : Option Amount :=
  ofInt? (a.val - b.val)

/-- The amount nearest to an integer. -/
def clamp (n : Int) : Amount :=
  if h : n < -9223372036854775808 then { val := -9223372036854775808 }
  else if h' : n ≤ 9223372036854775807 then ⟨n, by omega, h'⟩
  else { val := 9223372036854775807 }

/-- The sum, held at the end of the range it would cross. -/
def saturatingAdd (a b : Amount) : Amount :=
  clamp (a.val + b.val)

def min (a b : Amount) : Amount :=
  if a.val ≤ b.val then a else b

def max (a b : Amount) : Amount :=
  if a.val ≤ b.val then b else a

@[ext] theorem ext {a b : Amount} (h : a.val = b.val) : a = b := by
  cases a
  cases b
  cases h
  rfl

theorem val_of_ofInt? {n : Int} {a : Amount} (h : ofInt? n = some a) : a.val = n := by
  unfold ofInt? at h
  split at h
  · cases h
    rfl
  · cases h

theorem ofInt?_val (a : Amount) : ofInt? a.val = some a := by
  unfold ofInt?
  rw [dif_pos ⟨a.ge_min, a.le_max⟩]

theorem ofInt?_isSome {n : Int} : (ofInt? n).isSome ↔
    -9223372036854775808 ≤ n ∧ n ≤ 9223372036854775807 := by
  unfold ofInt?
  split
  · next h => exact ⟨fun _ => h, fun _ => rfl⟩
  · next h => exact ⟨fun h' => (nomatch h'), fun h' => absurd h' h⟩

end Amount

end CardEffects
