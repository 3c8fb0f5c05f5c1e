import LiveModels.Text.Blank
import LiveModels.Text.Casing
import LiveModels.Text.Lines

/-!
# Content codings

In which form a body is sent: as it is, or compressed. A request lists the codings it accepts, each
with a weight; the known coding of the greatest weight is taken, and of two equal ones the one that
compresses.
-/

namespace LiveModels.Http

/-- The form in which a body is sent. -/
inductive Coding
  | identity
  | gzip
  deriving DecidableEq, Repr, Inhabited

namespace Coding

/-- The coding of a name. -/
def ofName? (name : String) : Option Coding :=
  let name := Text.lowerAscii name
  if name = "gzip" ∨ name = "x-gzip" then some .gzip
  else if name = "identity" then some .identity
  else none

/-- The thousandths that up to three decimal places stand for. -/
def thousandths? (places : List Char) : Option Nat :=
  if places.length ≤ 3 ∧ places.all Char.isDigit then
    some ((places ++ List.replicate (3 - places.length) '0').foldl
      (fun n c => n * 10 + (c.toNat - '0'.toNat)) 0)
  else none

/-- The weight that a parameter gives, in thousandths: a number from zero to one. -/
def weight? (parameter : List Char) : Option Nat :=
  match parameter with
  | q :: '=' :: whole :: places =>
    if (q = 'q' ∨ q = 'Q') ∧ (whole = '0' ∨ whole = '1') then
      let fraction :=
        match places with
        | [] => some 0
        | '.' :: places => thousandths? places
        | _ => none
      (fraction.map fun n => n + if whole = '1' then 1000 else 0).filter fun n => decide (n ≤ 1000)
    else none
  | _ => none

/-- The coding and the weight that one entry of a list gives. Without a weight it counts fully. -/
def ofEntry? (entry : List Char) : Option (Coding × Nat) :=
  match ofName? (Text.trimmed (String.ofList (entry.takeWhile (· ≠ ';')))) with
  | none => none
  | some coding =>
    match entry.dropWhile (· ≠ ';') with
    | [] => some (coding, 1000)
    | _ :: parameter => (weight? (Text.trim parameter)).map fun w => (coding, w)

/-- The greatest weight of a coding in a list, or zero. -/
def weightOf (coding : Coding) (entries : List (Coding × Nat)) : Nat :=
  entries.foldl (fun most e => if e.1 = coding then max most e.2 else most) 0

/-- The coding that is taken for the lists in the headers of a request. -/
def preferred (headers : List String) : Coding :=
  let entries := headers.flatMap fun h => (Text.pieces ',' h.toList).filterMap ofEntry?
  if 0 < weightOf .gzip entries ∧ weightOf .identity entries ≤ weightOf .gzip entries then .gzip
  else .identity

end Coding

end LiveModels.Http
