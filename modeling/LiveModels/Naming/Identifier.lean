import LiveModels.Text.Character

/-!
# Identifiers

Names that generated code can declare: ASCII letters, digits and underscores, not beginning with a
digit, and none of the words that the language of the generated code keeps for itself.
-/

namespace LiveModels.Identifier

/-- Whether a character may stand in an identifier. -/
def isIdentifierCharacter (c : Char) : Bool :=
  c.isAlphanum || c == '_'

/-- The words that cannot be declared. -/
def reserved : List String := [
  "as", "async", "await", "break", "const", "continue", "crate", "dyn", "else", "enum", "extern",
  "false", "fn", "for", "if", "impl", "in", "let", "loop", "match", "mod", "move", "mut", "pub",
  "ref", "return", "self", "Self", "static", "struct", "super", "trait", "true", "type", "unsafe",
  "use", "where", "while"]

/-- Whether a text is a reserved word. -/
def isReserved (s : List Char) : Bool :=
  reserved.any fun word => word.toList == s

/-- The identifier characters of a text made into an identifier: an underscore stands for none at
all, comes before a leading digit and after a reserved word. -/
def ofCharacters (s : List Char) : List Char :=
  match s.filter isIdentifierCharacter with
  | [] => ['_']
  | c :: rest =>
    if c.isDigit then '_' :: c :: rest
    else if isReserved (c :: rest) then c :: rest ++ ['_']
    else c :: rest

/-- A text made into an identifier. -/
def sanitize (s : String) : String :=
  String.ofList (ofCharacters s.toList)

end LiveModels.Identifier
