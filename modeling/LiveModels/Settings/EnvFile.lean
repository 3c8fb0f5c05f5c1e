import LiveModels.Text.Affix
import LiveModels.Text.Blank
import LiveModels.Text.Character
import LiveModels.Text.Number

/-!
# Environment files

A text of assignments, one a line, each a key, an equals sign and a value. The word `export` may
come before the key. A value may be quoted, and a quotation may go on over several lines; in single
quotes every character stands for itself, elsewhere a backslash escapes, and a dollar sign is
replaced by the value of the variable whose name follows. A number sign begins a comment.
-/

namespace LiveModels.EnvFile

open Text

/-- Why a text is not one of assignments: the line, and the number of octets or characters before
the place where reading stopped. -/
structure Fault where
  line : String
  index : Nat
  deriving DecidableEq, Repr

/-- What is reported about a text that is not one of assignments. -/
def Fault.message (f : Fault) : String :=
  "Error parsing line: '" ++ f.line ++ "', error at line index: " ++ decimal f.index

/-- The number of octets of a text in UTF-8. -/
def octetCount (s : List Char) : Nat :=
  s.foldl (fun n c => n + c.utf8Size) 0

/-! ### Logical lines -/

/-- What is open at a place of a text. -/
inductive Quotation
  | complete
  | escape
  | strong
  | strongEscape
  | weak
  | weakEscape
  | blank
  deriving DecidableEq, Repr

/-- What a character outside of quotes opens. -/
def Quotation.opening (c : Char) : Quotation :=
  if c = '\\' then .escape
  else if c = '"' then .weak
  else if c = '\'' then .strong
  else .complete

/-- What is open after a character. -/
def Quotation.after (q : Quotation) (c : Char) : Quotation :=
  match q with
  | .blank => .opening c
  | .complete => if isBlank c ∧ c ≠ '\n' ∧ c ≠ '\r' then .blank else .opening c
  | .escape => .complete
  | .weak => if c = '\\' then .weakEscape else if c = '"' then .complete else .weak
  | .weakEscape => .weak
  | .strong => if c = '\\' then .strongEscape else if c = '\'' then .complete else .strong
  | .strongEscape => .strong

/-- What is open at the end of a line, or the part of the line before the comment that ends it. A
comment begins with a number sign after white space. -/
def scanLine : Quotation → List Char → List Char → Quotation ⊕ List Char
  | q, _, [] => .inl q
  | q, before, c :: rest =>
    if q = .blank ∧ c = '#' then .inr before.reverse
    else scanLine (q.after c) (c :: before) rest

/-- The lines of a text, each with its line feed. -/
def rawLines : List Char → List (List Char)
  | [] => []
  | '\n' :: rest => ['\n'] :: rawLines rest
  | c :: rest =>
    match rawLines rest with
    | [] => [[c]]
    | line :: others => (c :: line) :: others

/-- A line without its line feed and the carriage return before that. -/
def withoutEnd (line : List Char) : List Char :=
  if line.getLast? = some '\n' then
    let body := line.dropLast
    if body.getLast? = some '\r' then body.dropLast else body
  else line

/-- Lines joined as long as a quotation is open. A text that ends inside of one is at fault. -/
def logicalLines : Quotation → List Char → List (List Char) → List (Except Fault (List Char))
  | q, buffer, [] =>
    if q = .complete then [] else [.error ⟨String.ofList buffer, octetCount buffer⟩]
  | q, buffer, line :: rest =>
    let all := buffer ++ line
    if (trimStart all).head? = some '#' then .ok [] :: logicalLines .complete [] rest
    else match scanLine q [] line with
      | .inr before => .ok (buffer ++ before) :: logicalLines .complete [] rest
      | .inl .complete => .ok (withoutEnd all) :: logicalLines .complete [] rest
      | .inl q => logicalLines q all rest

/-! ### Values -/

/-- Variables with their values. They are kept as entries that hold the name, an equals sign and the
value, so that a name which holds an equals sign itself finds its value in the middle of one. -/
abbrev Variables := List (String × String)

/-- The value of a variable, from the first entry that begins with its name. -/
def lookUp (vars : Variables) (name : String) : Option String :=
  if name.isEmpty then none
  else
    vars.findSome? fun v =>
      (afterWord? (name ++ "=").toList (v.1 ++ "=" ++ v.2).toList).map String.ofList

/-- How the name of a variable is being read after a dollar sign. -/
inductive Substitution
  | none
  | plain
  | braced
  deriving DecidableEq, Repr

/-- The state of reading a value; the output and the name of a variable are held in reverse. -/
structure Reading where
  output : List Char := []
  strong : Bool := false
  weak : Bool := false
  escaped : Bool := false
  ended : Bool := false
  substitution : Substitution := .none
  name : List Char := []

/-- The state after the variable whose name has been read is replaced by its value. -/
def Reading.substitute (vars : Variables) (r : Reading) : Reading :=
  let value := (lookUp vars (String.ofList r.name.reverse)).getD ""
  { r with output := value.toList.reverse ++ r.output, name := [] }

/-- The state with a character added to the output. -/
def Reading.push (r : Reading) (c : Char) : Reading :=
  { r with output := c :: r.output }

/-- The state with a character added to the name of a variable. -/
def Reading.pushName (r : Reading) (c : Char) : Reading :=
  { r with name := c :: r.name }

/-- What follows from a character of a value. -/
inductive Outcome
  | next (r : Reading)
  /-- A comment begins. -/
  | stop
  | fault

/-- Reads a character after a backslash. -/
def Reading.readEscaped (r : Reading) (c : Char) : Outcome :=
  let r := { r with escaped := false }
  if c = '\\' ∨ c = '\'' ∨ c = '"' ∨ c = '$' ∨ c = ' ' then .next (r.push c)
  else if c = 'n' then .next (r.push '\n')
  else .fault

/-- Reads a character of, or after, the name of a variable. -/
def Reading.readName (vars : Variables) (r : Reading) (c : Char) : Reading :=
  if isAlphanumeric c then r.pushName c
  else match r.substitution with
    | .braced =>
      if c = '}' then { r with substitution := .none }.substitute vars
      else r.pushName c
    | _ =>
      if c = '{' ∧ r.name.isEmpty then { r with substitution := .braced }
      else
        let r := r.substitute vars
        if c = '$' then { r with substitution := .plain }
        else { r with substitution := .none }.push c

/-- Reads one character of a value. -/
def Reading.step (vars : Variables) (r : Reading) (c : Char) : Outcome :=
  if r.ended then
    if c = ' ' ∨ c = '\t' then .next r
    else if c = '#' then .stop
    else .fault
  else if r.escaped then r.readEscaped c
  else if r.strong then
    .next (if c = '\'' then { r with strong := false } else r.push c)
  else if r.substitution ≠ .none then .next (r.readName vars c)
  else if c = '$' then .next { r with substitution := .plain }
  else if r.weak then
    .next (if c = '"' then { r with weak := false }
      else if c = '\\' then { r with escaped := true }
      else r.push c)
  else if c = '\'' then .next { r with strong := true }
  else if c = '"' then .next { r with weak := true }
  else if c = '\\' then .next { r with escaped := true }
  else if c = ' ' ∨ c = '\t' then .next { r with ended := true }
  else .next (r.push c)

/-- Reads a value from its `index`-th character on. -/
def Reading.run (vars : Variables) : Reading → Nat → List Char → Except Nat Reading
  | r, _, [] => .ok r
  | r, index, c :: rest =>
    match r.step vars c with
    | .next r => run vars r (index + 1) rest
    | .stop => .ok r
    | .fault => .error index

/-- The value that a text writes. -/
def parseValue (vars : Variables) (s : List Char) : Except Fault String :=
  match ({} : Reading).run vars 0 s with
  | .error index => .error ⟨String.ofList s, index⟩
  | .ok r =>
    if r.substitution = .braced ∨ r.strong ∨ r.weak then
      .error ⟨String.ofList s, octetCount s - 1⟩
    else .ok (String.ofList (r.substitute vars).output.reverse)

/-! ### Assignments -/

/-- A line being read: what is left of it, and the number of octets before that. -/
structure Cursor where
  rest : List Char
  index : Nat

/-- The cursor after white space. -/
def Cursor.skipBlank (c : Cursor) : Cursor :=
  ⟨c.rest.dropWhile isBlank, c.index + octetCount (c.rest.takeWhile isBlank)⟩

/-- Whether a character may begin a key. -/
def beginsKey (c : Char) : Bool :=
  c.isAlpha || c == '_'

/-- Whether a character may stand in a key. -/
def isKeyCharacter (c : Char) : Bool :=
  c.isAlphanum || c == '_' || c == '.'

/-- Reads a key. -/
def Cursor.readKey? (c : Cursor) : Option (List Char × Cursor) :=
  if c.rest.head?.any beginsKey then
    let key := c.rest.takeWhile isKeyCharacter
    some (key, ⟨c.rest.dropWhile isKeyCharacter, c.index + key.length⟩)
  else none

/-- Reads an equals sign. -/
def Cursor.readEqual? (c : Cursor) : Option Cursor :=
  match c.rest with
  | '=' :: rest => some ⟨rest, c.index + 1⟩
  | _ => none

/-- Reads a key and the equals sign after it; the key `export` may come before another one. -/
def Cursor.readTarget (c : Cursor) : Except Nat (List Char × Cursor) :=
  match c.readKey? with
  | none => .error c.index
  | some (key, after) =>
    let after := after.skipBlank
    match after.readEqual? with
    | some value => .ok (key, value)
    | none =>
      if key = "export".toList then
        match after.readKey? with
        | none => .error after.index
        | some (key, after) =>
          let after := after.skipBlank
          match after.readEqual? with
          | some value => .ok (key, value)
          | none => .error after.index
      else .error after.index

/-- The assignment on a line, if it is not blank and no comment. -/
def parseLine (vars : Variables) (line : List Char) : Except Fault (Option (String × String)) :=
  let start := Cursor.skipBlank ⟨trimEnd line, 0⟩
  if start.rest.isEmpty ∨ start.rest.head? = some '#' then .ok none
  else match start.readTarget with
    | .error index => .error ⟨String.ofList line, index⟩
    | .ok (key, value) =>
      let value := value.skipBlank
      if value.rest.isEmpty ∨ value.rest.head? = some '#' then .ok (some (String.ofList key, ""))
      else (parseValue vars value.rest).map fun text => some (String.ofList key, text)

/-- The variables with those of further lines. A variable that has a value keeps it, and the lines
that follow see the variables of the lines before. -/
def assign (vars : Variables) : List (Except Fault (List Char)) → Except Fault Variables
  | [] => .ok vars
  | .error fault :: _ => .error fault
  | .ok line :: rest =>
    match parseLine vars line with
    | .error fault => .error fault
    | .ok none => assign vars rest
    | .ok (some (key, value)) =>
      assign (if (lookUp vars key).isSome then vars else vars ++ [(key, value)]) rest

/-- The environment with the assignments of a text added. -/
def load (vars : Variables) (text : String) : Except Fault Variables :=
  let body :=
    match text.toList with
    | '\ufeff' :: rest => rest
    | rest => rest
  assign vars (logicalLines .complete [] (rawLines body))

end LiveModels.EnvFile
