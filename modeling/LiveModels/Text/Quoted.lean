import LiveModels.Text.Number

/-!
# Quoted text

A text in double quotes, in which the quote, the backslash, the characters that break lines and all
characters that are not shown are written with a backslash. `unescape` reads the text between the
quotes back; it also accepts escapes that `quote` never writes.
-/

namespace LiveModels.Text

/-- How a character is written inside quotes. -/
def escapeCharacter (c : Char) : List Char :=
  match c with
  | '\x00' => ['\\', '0']
  | '\t' => ['\\', 't']
  | '\r' => ['\\', 'r']
  | '\n' => ['\\', 'n']
  | '"' => ['\\', '"']
  | '\\' => ['\\', '\\']
  | c => if isShown c then [c] else ['\\', 'u', '{'] ++ hexDigits c.toNat ++ ['}']

/-- A text written between the quotes. -/
def escape (s : List Char) : List Char :=
  s.flatMap escapeCharacter

/-- A text in double quotes. -/
def quote (s : String) : String :=
  String.ofList ('"' :: escape s.toList ++ ['"'])

/-- The character with a hexadecimal code, which may have a plus sign before it; nothing if the
digits write no code point of a character. -/
def characterOfHex? (digits : List Char) : Option Char :=
  let value :=
    match digits with
    | [] => none
    | ['+'] => none
    | '+' :: more => hexFrom 0xffffffff 0 more
    | more => hexFrom 0xffffffff 0 more
  match value with
  | some n => if n.isValidChar then some (Char.ofNat n) else none
  | none => none

/-- The text that an escaped text stands for. A code point in braces that is no character is
dropped, and an unknown escape stands for the character after the backslash. -/
def unescape : List Char → List Char
  | [] => []
  | ['\\'] => ['\\']
  | '\\' :: 'n' :: rest => '\n' :: unescape rest
  | '\\' :: 'r' :: rest => '\r' :: unescape rest
  | '\\' :: 't' :: rest => '\t' :: unescape rest
  | '\\' :: '0' :: rest => '\x00' :: unescape rest
  | '\\' :: 'u' :: rest =>
    let body := rest.drop 1
    let digits := body.takeWhile (· != '}')
    (characterOfHex? digits).toList ++ unescape (body.drop (digits.length + 1))
  | '\\' :: c :: rest => c :: unescape rest
  | c :: rest => c :: unescape rest
  termination_by s => s.length
  decreasing_by all_goals simp_wf; try omega

end LiveModels.Text
