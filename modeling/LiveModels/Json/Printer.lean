import LiveModels.Json.Basic
import LiveModels.Text.Number

/-!
# Writing JSON

The text of a value, without separators or with one member on each line.
-/

namespace LiveModels.Json

open Text

/-- How a character is written inside the quotes of a JSON string. -/
def escapeCharacter (c : Char) : List Char :=
  match c with
  | '"' => ['\\', '"']
  | '\\' => ['\\', '\\']
  | '\x08' => ['\\', 'b']
  | '\x0c' => ['\\', 'f']
  | '\n' => ['\\', 'n']
  | '\r' => ['\\', 'r']
  | '\t' => ['\\', 't']
  | c => if c.toNat < 0x20 then ['\\', 'u'] ++ hexFixed 4 c.toNat else [c]

/-- A text as a JSON string. -/
def printString (s : String) : List Char :=
  '"' :: s.toList.flatMap escapeCharacter ++ ['"']

/-- A number with all its digits. -/
def printNumber : Number → List Char
  | .integer n => intDigits n
  | .decimal negative d => if negative then '-' :: d.digits else d.digits

mutual

/-- The text of a value without separators. -/
def print : Json → List Char
  | .null => "null".toList
  | .bool true => "true".toList
  | .bool false => "false".toList
  | .number n => printNumber n
  | .string s => printString s
  | .array items => '[' :: printItems items ++ [']']
  | .object members => '{' :: printMembers members ++ ['}']
  | .invalid | .unnamed _ | .broken => []

/-- The items of an array with commas between them. -/
def printItems : List Json → List Char
  | [] => []
  | [j] => print j
  | j :: rest => print j ++ ',' :: printItems rest

/-- The members of an object with commas between them. -/
def printMembers : List (String × Json) → List Char
  | [] => []
  | [(key, j)] => printString key ++ ':' :: print j
  | (key, j) :: rest => printString key ++ ':' :: print j ++ ',' :: printMembers rest

end

/-- The text of a value on one line. -/
def compact (j : Json) : String :=
  String.ofList j.print

/-- A line feed and the margin of a nesting level. -/
def margin (level : Nat) : List Char :=
  '\n' :: List.replicate (2 * level) ' '

mutual

/-- The text of a value at a nesting level, with every item and member on a line of its own. -/
def layOut (level : Nat) : Json → List Char
  | .array [] => ['[', ']']
  | .object [] => ['{', '}']
  | .array items => '[' :: layOutItems (level + 1) items ++ margin level ++ [']']
  | .object members => '{' :: layOutMembers (level + 1) members ++ margin level ++ ['}']
  | .null => "null".toList
  | .bool true => "true".toList
  | .bool false => "false".toList
  | .number n => printNumber n
  | .string s => printString s
  | .invalid | .unnamed _ | .broken => []

/-- The items of an array, each after its margin. -/
def layOutItems (level : Nat) : List Json → List Char
  | [] => []
  | [j] => margin level ++ layOut level j
  | j :: rest => margin level ++ layOut level j ++ ',' :: layOutItems level rest

/-- The members of an object, each after its margin. -/
def layOutMembers (level : Nat) : List (String × Json) → List Char
  | [] => []
  | [(key, j)] => margin level ++ printString key ++ [':', ' '] ++ layOut level j
  | (key, j) :: rest =>
    margin level ++ printString key ++ [':', ' '] ++ layOut level j
      ++ ',' :: layOutMembers level rest

end

/-- The text of a value with one item or member a line, indented by two spaces a level. -/
def pretty (j : Json) : String :=
  String.ofList (j.layOut 0)

end LiveModels.Json
