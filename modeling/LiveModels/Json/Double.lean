import LiveModels.Text.Number

/-!
# Double precision

The magnitudes of double precision, as exact values: a significand of at most 53 binary digits times
a power of two. `Double.ofRatio?` rounds the ratio of two numbers to the nearest of them, and the
operations round the exact result once.
-/

namespace LiveModels

/-- A magnitude of double precision: the significand times two to the power of the exponent. -/
structure Double where
  significand : Nat
  exponent : Int
  deriving DecidableEq, Repr, Inhabited

namespace Double

/-- The exponent of the smallest magnitudes. -/
def leastExponent : Int := -1074

/-- The exponent of the largest magnitudes. -/
def mostExponent : Int := 971

/-- The least number of 53 binary digits. -/
def leastNormal : Nat := 0x10000000000000

/-! ### Values -/

/-- What stands above the bar when a magnitude is written as a ratio. -/
def numerator (d : Double) : Nat :=
  d.significand * Nat.pow 2 d.exponent.toNat

/-- What stands below the bar when a magnitude is written as a ratio. -/
def denominator (d : Double) : Nat :=
  Nat.pow 2 (-d.exponent).toNat

/-- The exact value in decimal digits, with at least one digit after the point. -/
def digits (d : Double) : List Char :=
  let places := (-d.exponent).toNat
  let all := Text.natDigits (d.numerator * Nat.pow 5 places)
  let padded := List.replicate (places + 1 - all.length) '0' ++ all
  let whole := padded.take (padded.length - places)
  let fraction := ((padded.drop whole.length).reverse.dropWhile (· == '0')).reverse
  whole ++ '.' :: if fraction.isEmpty then ['0'] else fraction

/-! ### Rounding -/

/-- The number nearest to a ratio; of two the even one. -/
def nearest (above below : Nat) : Nat :=
  let quotient := above / below
  let remainder := above % below
  if below < 2 * remainder ∨ (below = 2 * remainder ∧ quotient % 2 = 1) then quotient + 1
  else quotient

/-- The exponent of the greatest power of two that a ratio reaches. -/
def ratioLog2 (above below : Nat) : Int :=
  let guess : Int := above.log2 - below.log2
  if below * Nat.pow 2 guess.toNat ≤ above * Nat.pow 2 (-guess).toNat then guess else guess - 1

/-- The magnitude nearest to a ratio; of two the one with the even significand. There is none for a
ratio that rounds to more than the largest magnitude. -/
def ofRatio? (above below : Nat) : Option Double :=
  let exponent :=
    if above = 0 then leastExponent else max leastExponent (ratioLog2 above below - 52)
  let significand :=
    nearest (above * Nat.pow 2 (-exponent).toNat) (below * Nat.pow 2 exponent.toNat)
  let rounded : Double :=
    if significand = 2 * leastNormal then ⟨leastNormal, exponent + 1⟩ else ⟨significand, exponent⟩
  if rounded.exponent ≤ mostExponent then some rounded else none

/-! ### Operations -/

/-- The magnitude nearest to a number. -/
def ofNat? (n : Nat) : Option Double :=
  ofRatio? n 1

/-- The product of two magnitudes. -/
def times? (a b : Double) : Option Double :=
  ofRatio? (a.numerator * b.numerator) (a.denominator * b.denominator)

/-- The quotient of two magnitudes, the second of which is not zero. -/
def dividedBy? (a b : Double) : Option Double :=
  ofRatio? (a.numerator * b.denominator) (a.denominator * b.numerator)

/-- The exponent of the greatest power of ten in range. -/
def mostTens : Nat := 308

/-- A magnitude times a power of ten, which is rounded by itself. A power that is too small to be
one is reached by several divisions. -/
def scaled? (d : Double) (exponent : Int) : Option Double :=
  if d.significand = 0 then some d
  else if exponent.natAbs ≤ mostTens then
    (ofNat? (Nat.pow 10 exponent.natAbs)).bind fun power =>
      if 0 ≤ exponent then d.times? power else d.dividedBy? power
  else if 0 ≤ exponent then none
  else
    ((ofNat? (Nat.pow 10 mostTens)).bind d.dividedBy?).bind fun d => d.scaled? (exponent + mostTens)
  termination_by exponent.natAbs
  decreasing_by
    unfold mostTens at *
    omega

end Double

end LiveModels
