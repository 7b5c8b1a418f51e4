import CardEffects.Json.Basic

/-!
# Reading JSON text

A reader for one value. Numbers written without a fraction and an exponent are integers as long
as they fit 64 bits, signed or not; every other number keeps its text. Of two fields with one
name the later wins.
-/

namespace CardEffects

namespace Json

/-- The characters JSON allows between tokens. -/
def isBlank (c : Char) : Bool :=
  c = ' ' || c = '\n' || c = '\r' || c = '\t'

/-- The text from the first character that is not blank. -/
def skipBlank (text : List Char) : List Char :=
  text.dropWhile isBlank

/-- The value of a hexadecimal digit in either case. -/
def hexValue? (c : Char) : Option Nat :=
  if '0' ≤ c ∧ c ≤ '9' then some (c.toNat - 48)
  else if 'a' ≤ c ∧ c ≤ 'f' then some (c.toNat - 87)
  else if 'A' ≤ c ∧ c ≤ 'F' then some (c.toNat - 55)
  else none

/-- The 16-bit unit spelled by four hexadecimal digits. -/
def readUnit : List Char → Option (Nat × List Char)
  | a :: b :: c :: d :: rest => do
    let a ← hexValue? a
    let b ← hexValue? b
    let c ← hexValue? c
    let d ← hexValue? d
    return (((a * 16 + b) * 16 + c) * 16 + d, rest)
  | _ => none

/-- The character spelled by one escaped unit or by a pair of surrogates. -/
def readEscapedUnit (text : List Char) : Option (Char × List Char) := do
  let (unit, rest) ← readUnit text
  if 0xD800 ≤ unit ∧ unit < 0xDC00 then
    match rest with
    | '\\' :: 'u' :: rest => do
      let (low, rest) ← readUnit rest
      if 0xDC00 ≤ low ∧ low < 0xE000 then
        return (Char.ofNat (0x10000 + (unit - 0xD800) * 0x400 + (low - 0xDC00)), rest)
      else none
    | _ => none
  else if 0xDC00 ≤ unit ∧ unit < 0xE000 then none
  else return (Char.ofNat unit, rest)

/-- The body of a string after its opening quote, and what follows its closing quote. Every step
takes at least one character, so `fuel` characters of text need no more than `fuel` steps. -/
def readString : Nat → List Char → List Char → Option (String × List Char)
  | 0, _, _ => none
  | fuel + 1, taken, text =>
    match text with
    | '"' :: rest => some (String.ofList taken.reverse, rest)
    | '\\' :: 'u' :: rest => do
      let (c, rest) ← readEscapedUnit rest
      readString fuel (c :: taken) rest
    | '\\' :: c :: rest =>
      match c with
      | '"' => readString fuel ('"' :: taken) rest
      | '\\' => readString fuel ('\\' :: taken) rest
      | '/' => readString fuel ('/' :: taken) rest
      | 'b' => readString fuel ('\x08' :: taken) rest
      | 'f' => readString fuel ('\x0c' :: taken) rest
      | 'n' => readString fuel ('\n' :: taken) rest
      | 'r' => readString fuel ('\r' :: taken) rest
      | 't' => readString fuel ('\t' :: taken) rest
      | _ => none
    | c :: rest => if c.toNat < 32 then none else readString fuel (c :: taken) rest
    | [] => none

/-- The number that a list of decimal digits spells. -/
def digitsValue (digits : List Char) : Nat :=
  digits.foldl (fun n d => n * 10 + (d.toNat - 48)) 0

/-- A digit sequence that is not empty, and what follows it. -/
def readDigits (text : List Char) : Option (List Char × List Char) :=
  match text.span Char.isDigit with
  | ([], _) => none
  | found => some found

/-- The digits before the point: `0` stands alone. -/
def readWhole : List Char → Option (List Char × List Char)
  | '0' :: rest => some (['0'], rest)
  | text => readDigits text

/-- The point and the digits after it, if there are any. -/
def readFraction : List Char → Option (List Char × List Char)
  | '.' :: rest => (readDigits rest).map fun (digits, rest) => ('.' :: digits, rest)
  | text => some ([], text)

/-- The exponent, if there is one. -/
def readExponent : List Char → Option (List Char × List Char)
  | e :: rest =>
    if e = 'e' ∨ e = 'E' then
      match rest with
      | '+' :: rest => (readDigits rest).map fun (digits, rest) => (e :: '+' :: digits, rest)
      | '-' :: rest => (readDigits rest).map fun (digits, rest) => (e :: '-' :: digits, rest)
      | rest => (readDigits rest).map fun (digits, rest) => (e :: digits, rest)
    else some ([], e :: rest)
  | [] => some ([], [])

/-- The value of a number from its sign, its digits, and the text after them. -/
def ofNumberParts (negative : Bool) (whole tail : List Char) : Json :=
  let text := String.ofList ((if negative then ['-'] else []) ++ whole ++ tail)
  let value : Int := if negative then -(digitsValue whole : Int) else digitsValue whole
  if tail = [] ∧ ¬(negative ∧ value = 0) ∧ -9223372036854775808 ≤ value ∧
      value < 18446744073709551616 then .int value
  else .float text

/-- A number and what follows it. -/
def readNumber (text : List Char) : Option (Json × List Char) := do
  let negative := text.head? = some '-'
  let (whole, rest) ← readWhole (if negative then text.drop 1 else text)
  let (fraction, rest) ← readFraction rest
  let (exponent, rest) ← readExponent rest
  return (ofNumberParts negative whole (fraction ++ exponent), rest)

mutual

/-- A value and what follows it. Each call takes at least one character before the next, so the
length of the text bounds the depth of calls. -/
def readValue : Nat → List Char → Option (Json × List Char)
  | 0, _ => none
  | fuel + 1, text =>
    match skipBlank text with
    | 'n' :: 'u' :: 'l' :: 'l' :: rest => some (.null, rest)
    | 't' :: 'r' :: 'u' :: 'e' :: rest => some (.bool true, rest)
    | 'f' :: 'a' :: 'l' :: 's' :: 'e' :: rest => some (.bool false, rest)
    | '"' :: rest => (readString (rest.length + 1) [] rest).map fun (s, rest) => (.str s, rest)
    | '[' :: rest =>
      match skipBlank rest with
      | ']' :: rest => some (.arr [], rest)
      | rest => (readItems fuel rest).map fun (items, rest) => (.arr items, rest)
    | '\x7b' :: rest =>
      match skipBlank rest with
      | '\x7d' :: rest => some (.obj [], rest)
      | rest => (readFields fuel rest).map fun (fields, rest) => (Json.object fields, rest)
    | text => readNumber text

def readItems : Nat → List Char → Option (List Json × List Char)
  | 0, _ => none
  | fuel + 1, text => do
    let (item, rest) ← readValue fuel text
    match skipBlank rest with
    | ']' :: rest => return ([item], rest)
    | ',' :: rest => do
      let (items, rest) ← readItems fuel rest
      return (item :: items, rest)
    | _ => none

def readFields : Nat → List Char → Option (List (String × Json) × List Char)
  | 0, _ => none
  | fuel + 1, text =>
    match skipBlank text with
    | '"' :: rest => do
      let (name, rest) ← readString (rest.length + 1) [] rest
      match skipBlank rest with
      | ':' :: rest => do
        let (value, rest) ← readValue fuel rest
        match skipBlank rest with
        | '\x7d' :: rest => return ([(name, value)], rest)
        | ',' :: rest => do
          let (fields, rest) ← readFields fuel rest
          return ((name, value) :: fields, rest)
        | _ => none
      | _ => none
    | _ => none

end

/-- The value a text spells, if it spells exactly one. -/
def read? (text : String) : Option Json := do
  let chars := text.toList
  let (value, rest) ← readValue (2 * chars.length + 1) chars
  match skipBlank rest with
  | [] => some value
  | _ => none

end Json

end CardEffects
