import LiveModels.Text.Ranges
import LiveModels.Text.Table.Lowercase
import LiveModels.Text.Table.Uppercase
import LiveModels.Text.Table.Cased
import LiveModels.Text.Table.CaseIgnorable
import LiveModels.Text.Table.CaseMap

/-!
# Letter case

The full case mappings of characters and of texts. A mapping may give several characters, and the
lower-case form of a capital sigma depends on whether it ends a word. Two texts that agree up to
letter case have the same lower-case form.
-/

namespace LiveModels.Text

/-- Whether a character is a lower-case one. -/
def isLowercase (c : Char) : Bool :=
  if c.toNat < 0x80 then c.isLower else inside Table.lowercase c.toNat

/-- Whether a character is an upper-case one. -/
def isUppercase (c : Char) : Bool :=
  if c.toNat < 0x80 then c.isUpper else inside Table.uppercase c.toNat

/-- Whether a character comes in letter cases. -/
def isCased (c : Char) : Bool :=
  if c.toNat < 0x80 then c.isAlpha else inside Table.cased c.toNat

/-- Whether a character is skipped in the search for a neighbouring cased character. -/
def isCaseIgnorable (c : Char) : Bool :=
  inside Table.caseIgnorable c.toNat

/-- The characters to which a case mapping sends `c`: those of its expansion if it has one, else the
one of the run that covers it, else `c` itself. -/
def mapCase (shifts : List Table.Shift) (expansions : List (Nat × List Nat)) (c : Char) :
    List Char :=
  let n := c.toNat
  match expansions.find? (fun e => e.1 == n) with
  | some (_, image) => image.map Char.ofNat
  | none =>
    match shifts.find? (fun r =>
        decide (r.first ≤ n) && decide (n ≤ r.last) && (n - r.first) % r.step == 0) with
    | some r => [Char.ofNat (Int.toNat (n + r.offset))]
    | none => [c]

/-- The lower-case form of a character, apart from its context. -/
def lowerCharacter (c : Char) : List Char :=
  if c.toNat < 0x80 then [c.toLower]
  else mapCase Table.lowerShifts Table.lowerExpansions c

/-- The upper-case form of a character. -/
def upperCharacter (c : Char) : List Char :=
  if c.toNat < 0x80 then [c.toUpper]
  else mapCase Table.upperShifts Table.upperExpansions c

/-- Whether the first character that is not case-ignorable is cased. -/
def startsCased (s : List Char) : Bool :=
  match s.dropWhile isCaseIgnorable with
  | [] => false
  | c :: _ => isCased c

/-- The lower-case form of a text; `afterCased` tells whether the last character before it that is
not case-ignorable is cased. -/
def lowerFrom : Bool → List Char → List Char
  | _, [] => []
  | afterCased, c :: rest =>
    (if c = 'Σ' then [if afterCased && !startsCased rest then 'ς' else 'σ'] else lowerCharacter c)
      ++ lowerFrom (if isCaseIgnorable c then afterCased else isCased c) rest

/-- The lower-case form of a text. A capital sigma becomes a final sigma if a cased character comes
before it and none after it in its word. -/
def lower (s : String) : String :=
  String.ofList (lowerFrom false s.toList)

/-- The text with its ASCII capitals replaced by small letters. -/
def lowerAscii (s : String) : String :=
  String.ofList (s.toList.map Char.toLower)

end LiveModels.Text
