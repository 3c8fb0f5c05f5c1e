import LiveModels.Json.Basic
import LiveModels.Text.Number

/-!
# Numerals

How numbers are written in JSON, and what they denote. The magnitude of a numeral that is no integer
of 64 bits is found in three roundings to double precision: of the leading digits that fit a word,
of the power of ten that scales them, and of the product or quotient of the two.
-/

namespace LiveModels.Json

open Text

/-- The parts of a number: its sign, the digits before and after the point, and the exponent. -/
structure Numeral where
  negative : Bool
  whole : List Char
  fraction : List Char
  exponent : Option Int
  deriving DecidableEq, Repr

/-- The value of a run of decimal digits. -/
def decimalValue (digits : List Char) : Nat :=
  digits.foldl (fun n c => n * 10 + (c.toNat - '0'.toNat)) 0

/-! ### Reading -/

/-- Reads the fraction of a number, if a point begins it: at least one digit. -/
def readFraction : List Char → Option (List Char × List Char)
  | '.' :: rest =>
    let digits := rest.takeWhile Char.isDigit
    if digits.isEmpty then none else some (digits, rest.dropWhile Char.isDigit)
  | rest => some ([], rest)

/-- Reads the exponent of a number, if an `e` begins it: a sign or none, and at least one digit. -/
def readExponent (s : List Char) : Option (Option Int × List Char) :=
  let digits (sign : Int) (rest : List Char) : Option (Option Int × List Char) :=
    let ds := rest.takeWhile Char.isDigit
    if ds.isEmpty then none
    else some (some (sign * decimalValue ds), rest.dropWhile Char.isDigit)
  match s with
  | 'e' :: '-' :: rest | 'E' :: '-' :: rest => digits (-1) rest
  | 'e' :: '+' :: rest | 'E' :: '+' :: rest => digits 1 rest
  | 'e' :: rest | 'E' :: rest => digits 1 rest
  | rest => some (none, rest)

/-- Reads a number. Its whole part is a zero or begins with another digit. -/
def readNumeral (s : List Char) : Option (Numeral × List Char) :=
  let (negative, body) : Bool × List Char :=
    match s with
    | '-' :: rest => (true, rest)
    | rest => (false, rest)
  let whole := body.takeWhile Char.isDigit
  if whole.isEmpty ∨ (whole.head? = some '0' ∧ 1 < whole.length) then none
  else
    match readFraction (body.dropWhile Char.isDigit) with
    | none => none
    | some (fraction, rest) =>
      match readExponent rest with
      | none => none
      | some (exponent, last) => some (⟨negative, whole, fraction, exponent⟩, last)

/-! ### Magnitude -/

/-- Appends digits to a number as long as it fits a word, and gives the digits that are left. -/
def appendDigits : Nat → List Char → Nat × List Char
  | n, [] => (n, [])
  | n, c :: rest =>
    let next := n * 10 + (c.toNat - '0'.toNat)
    if next ≤ largestWord then appendDigits next rest else (n, c :: rest)

/-- The leading digits of a numeral that fit a word, and the exponent of ten that scales them.
Digits of the whole part that do not fit raise the exponent; those of the fraction are left out. -/
def Numeral.leading (n : Numeral) : Nat × Int :=
  let (start, beyond) := appendDigits 0 n.whole
  let (digits, unread) := appendDigits start n.fraction
  (digits, n.exponent.getD 0 + beyond.length - (n.fraction.length - unread.length))

/-- The magnitude of a numeral in double precision, if it is not too large. -/
def Numeral.magnitude? (n : Numeral) : Option Double :=
  let (digits, exponent) := n.leading
  (Double.ofNat? digits).bind fun d => d.scaled? exponent

/-- A numeral in double precision. -/
def Numeral.decimal (n : Numeral) : Json :=
  match n.magnitude? with
  | some d => .number (.decimal n.negative d)
  | none => .invalid

/-- The value of a numeral. An integer of 64 bits is kept as it is; all else has double precision,
the negative zero as well. -/
def Numeral.value (n : Numeral) : Json :=
  if n.fraction.isEmpty ∧ n.exponent.isNone then
    let magnitude := decimalValue n.whole
    if n.negative then
      if magnitude = 0 ∨ 0x8000000000000000 < magnitude then n.decimal
      else int (-(magnitude : Int))
    else if magnitude ≤ largestWord then int magnitude
    else n.decimal
  else n.decimal

end LiveModels.Json
