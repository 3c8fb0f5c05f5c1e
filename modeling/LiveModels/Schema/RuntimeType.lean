import LiveModels.Text.Blank

/-!
# Runtime types

The type under which a property appears in models. Its text is `Element`, a name, `@` with the alias
of a model, or `List<…>` around another such text. A reference to a model stays symbolic until the
model is known.
-/

namespace LiveModels

/-- The type of a property in models. -/
inductive RuntimeType
  /-- An element without a typed model. -/
  | element
  /-- A type with a name of its own. -/
  | named (name : String)
  /-- The model of the content type with an alias. -/
  | model (aliasName : String)
  /-- A list of values of one type. -/
  | list (inner : RuntimeType)
  deriving DecidableEq, Repr, Inhabited

namespace RuntimeType

/-! ### Text -/

/-- The characters of the text of a type. -/
def render : RuntimeType → List Char
  | .element => "Element".toList
  | .named name => name.toList
  | .model aliasName => '@' :: aliasName.toList
  | .list inner => "List<".toList ++ render inner ++ ['>']

/-- The text of a type. -/
def text (t : RuntimeType) : String :=
  String.ofList t.render

/-- Why a text is not that of a type. -/
inductive Fault
  | empty
  | modelWithoutAlias
  | unterminatedList (text : String)
  | malformed (text : String)
  deriving DecidableEq, Repr

/-- What is reported about a text that is not that of a type. -/
def Fault.message : Fault → String
  | .empty => "empty runtime type"
  | .modelWithoutAlias => "model reference without alias"
  | .unterminatedList text => "unterminated list type: " ++ text
  | .malformed text => "malformed runtime type: " ++ text

/-- The characters that belong to the notation of types and cannot stand in a name. -/
def isNotation (c : Char) : Bool :=
  c == '<' || c == '>' || c == '@'

/-- Reads the text of a type, without regard to white space around it. -/
def parse (s : List Char) : Except Fault RuntimeType :=
  match h : Text.trim s with
  | [] => .error .empty
  | ['@'] => .error .modelWithoutAlias
  | '@' :: aliasName => .ok (.model (String.ofList aliasName))
  | 'L' :: 'i' :: 's' :: 't' :: '<' :: rest =>
    if rest.getLast? = some '>' then
      have : rest.dropLast.length < s.length := by
        have := Text.length_trim_le s
        rw [h] at this
        simp only [List.length_cons, List.length_dropLast] at this ⊢
        omega
      match parse rest.dropLast with
      | .ok inner => .ok (.list inner)
      | .error fault => .error fault
    else .error (.unterminatedList (String.ofList ('L' :: 'i' :: 's' :: 't' :: '<' :: rest)))
  | name =>
    if name = "Element".toList then .ok .element
    else if name.any isNotation then .error (.malformed (String.ofList name))
    else .ok (.named (String.ofList name))
  termination_by s.length
  decreasing_by simpa using this

/-- The type that a text denotes. -/
def ofText (s : String) : Except Fault RuntimeType :=
  parse s.toList

/-! ### Models -/

/-- The type with the reference in it replaced by what `resolve` gives for its alias. -/
def mapModels (resolve : String → RuntimeType) : RuntimeType → RuntimeType
  | .element => .element
  | .named name => .named name
  | .model aliasName => resolve aliasName
  | .list inner => .list (mapModels resolve inner)

/-- The number of lists around the innermost type. -/
def depth : RuntimeType → Nat
  | .list inner => depth inner + 1
  | _ => 0

/-- The type inside all lists. -/
def innermost : RuntimeType → RuntimeType
  | .list inner => innermost inner
  | t => t

end RuntimeType

end LiveModels
