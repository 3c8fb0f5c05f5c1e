import LiveModels.Text.Casing

/-!
# Media types

How the type of a body is declared: a type and a subtype, perhaps with a suffix behind a plus sign,
and then parameters, which have to be well formed but do not matter otherwise.
-/

namespace LiveModels.Http

/-- A media type in small letters. -/
structure MediaType where
  type : String
  subtype : String
  suffix : Option String
  deriving DecidableEq, Repr, Inhabited

/-- Whether a character may stand in a name or in a value without quotes. -/
def isTokenCharacter (c : Char) : Bool :=
  c.isAlphanum || "!#$%&'*+-.^_`|~".toList.contains c

/-- Whether a header shows a character: a space, a visible ASCII character or a tab. -/
def isVisible (c : Char) : Bool :=
  (decide (0x20 ≤ c.toNat) && decide (c.toNat < 0x7f)) || c == '\t'

namespace MediaType

/-! ### Parameters -/

/-- A place in a list of parameters. -/
inductive Position
  /-- Before a name, where spaces are skipped. -/
  | start
  | name
  /-- Behind the sign between a name and its value. -/
  | value
  /-- In a value without quotes. -/
  | bare
  /-- Behind an opening quote. -/
  | opened
  | quoted
  /-- Behind a closing quote, where spaces are skipped. -/
  | closed
  deriving DecidableEq, Repr

namespace Position

/-- The position behind a character, if it may stand there. A value in quotes has at least one
character, and the first may be a quote. -/
def next? : Position → Char → Option Position
  | .start, c =>
    if c = ' ' then some .start else if isTokenCharacter c then some .name else none
  | .name, c => if c = '=' then some .value else if isTokenCharacter c then some .name else none
  | .value, c => if c = '"' then some .opened else if isTokenCharacter c then some .bare else none
  | .bare, c => if c = ';' then some .start else if isTokenCharacter c then some .bare else none
  | .opened, c => if c = '\t' then none else some .quoted
  | .quoted, c => if c = '"' then some .closed else if c = '\t' then none else some .quoted
  | .closed, c => if c = ';' then some .start else if c = ' ' then some .closed else none

/-- Whether a list of parameters may end at a position. -/
def isEnd : Position → Bool
  | .start | .value | .bare | .closed => true
  | .name | .opened | .quoted => false

end Position

/-- Whether a text is a list of parameters. -/
def areParameters (s : List Char) : Bool :=
  ((s.foldlM Position.next? .start).map Position.isEnd).getD false

/-! ### Types -/

/-- A name cut at the last plus sign that something precedes. -/
def splitSuffix (name : List Char) : List Char × Option (List Char) :=
  let suffix := (name.reverse.takeWhile (· ≠ '+')).reverse
  let before := name.take (name.length - suffix.length - 1)
  if suffix.length = name.length ∨ before.isEmpty then (name, none) else (before, some suffix)

/-- The media type of a type and a subtype. -/
def ofNames (type name : List Char) : MediaType :=
  let small (s : List Char) : String := Text.lowerAscii (String.ofList s)
  let (subtype, suffix) := splitSuffix name
  ⟨small type, small subtype, suffix.map small⟩

/-- The media type that a header declares. -/
def parse? (header : String) : Option MediaType :=
  let s := header.toList
  let type := s.takeWhile isTokenCharacter
  match s.dropWhile isTokenCharacter with
  | '/' :: rest =>
    let name := rest.takeWhile isTokenCharacter
    let isDeclared :=
      match rest.dropWhile isTokenCharacter with
      | [] => true
      | ';' :: parameters => !name.isEmpty && areParameters parameters
      | _ => false
    if !type.isEmpty && s.all isVisible && isDeclared then some (ofNames type name) else none
  | _ => none

/-- Whether a media type is one of JSON. -/
def isJson (m : MediaType) : Bool :=
  m.type == "application" && (m.subtype == "json" || m.suffix == some "json")

end MediaType

end LiveModels.Http
