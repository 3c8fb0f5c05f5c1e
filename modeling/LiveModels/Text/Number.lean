import LiveModels.Text.Character

/-!
# Numbers in text

Reading unsigned numbers of bounded size, and writing numbers in decimal and hexadecimal digits.
-/

namespace LiveModels.Text

/-- Why a text is not an unsigned number of the wanted size. -/
inductive NumberError
  | empty
  | invalidDigit
  | tooLarge
  deriving DecidableEq, Repr

/-- What is reported about a text that is not a number. -/
def NumberError.message : NumberError → String
  | .empty => "cannot parse integer from empty string"
  | .invalidDigit => "invalid digit found in string"
  | .tooLarge => "number too large to fit in target type"

/-- The value of a decimal digit. -/
def digitValue? (c : Char) : Option Nat :=
  if c.isDigit then some (c.toNat - '0'.toNat) else none

/-- The number written by `value` followed by the given digits, as long as it stays at most `most`.
The first character that is no digit, or that makes the number too large, decides the error. -/
def digitsFrom (most : Nat) : Nat → List Char → Except NumberError Nat
  | value, [] => .ok value
  | value, c :: rest =>
    match digitValue? c with
    | none => .error .invalidDigit
    | some d =>
      let next := value * 10 + d
      if next ≤ most then digitsFrom most next rest else .error .tooLarge

/-- The unsigned number, at most `most`, that a text writes: decimal digits after an optional plus
sign. -/
def parseUnsigned (most : Nat) (s : List Char) : Except NumberError Nat :=
  match s with
  | [] => .error .empty
  | ['+'] => .error .invalidDigit
  | '+' :: digits => digitsFrom most 0 digits
  | digits => digitsFrom most 0 digits

/-- The largest number of 64 bits. -/
def largestWord : Nat := 0xffffffffffffffff

/-- The number of 64 bits that a text writes. -/
def parseWord? (s : List Char) : Option UInt64 :=
  match parseUnsigned largestWord s with
  | .ok n => some (UInt64.ofNat n)
  | .error _ => none

/-- The decimal digits of a number. -/
def natDigits (n : Nat) : List Char :=
  if n < 10 then [Char.ofNat ('0'.toNat + n)]
  else natDigits (n / 10) ++ [Char.ofNat ('0'.toNat + n % 10)]
  termination_by n
  decreasing_by omega

/-- The decimal digits of an integer, after a minus sign if it is negative. -/
def intDigits (n : Int) : List Char :=
  if n < 0 then '-' :: natDigits n.natAbs else natDigits n.natAbs

/-- A number in decimal digits. -/
def decimal (n : Nat) : String :=
  String.ofList (natDigits n)

/-- An integer in decimal digits. -/
def signedDecimal (n : Int) : String :=
  String.ofList (intDigits n)

/-- The lower-case hexadecimal digit of a value below sixteen. -/
def hexDigit (n : Nat) : Char :=
  if n < 10 then Char.ofNat ('0'.toNat + n) else Char.ofNat ('a'.toNat + (n - 10))

/-- The value of a hexadecimal digit of either case. -/
def hexValue? (c : Char) : Option Nat :=
  if c.isDigit then some (c.toNat - '0'.toNat)
  else if 'a' ≤ c ∧ c ≤ 'f' then some (c.toNat - 'a'.toNat + 10)
  else if 'A' ≤ c ∧ c ≤ 'F' then some (c.toNat - 'A'.toNat + 10)
  else none

/-- The lowest `width` hexadecimal digits of `n`, the highest first. -/
def hexFixed : Nat → Nat → List Char
  | 0, _ => []
  | width + 1, n => hexFixed width (n / 16) ++ [hexDigit (n % 16)]

/-- The hexadecimal digits of `n`, without leading zeros. -/
def hexDigits (n : Nat) : List Char :=
  if n < 16 then [hexDigit n] else hexDigits (n / 16) ++ [hexDigit (n % 16)]
  termination_by n
  decreasing_by omega

/-- The number that hexadecimal digits write after `value`, or nothing if a character is no digit or
the number exceeds `most`. -/
def hexFrom (most : Nat) : Nat → List Char → Option Nat
  | value, [] => some value
  | value, c :: rest =>
    match hexValue? c with
    | none => none
    | some d => if value * 16 + d ≤ most then hexFrom most (value * 16 + d) rest else none

end LiveModels.Text
