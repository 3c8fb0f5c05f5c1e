import LiveModels.Json.Reader

/-!
# Decoding trees

Taking a JSON tree for a value of a given shape. The faults of a text are met in the order of the
text: the first one decides whether the text is refused for its syntax or for its shape.
-/

namespace LiveModels.Json

/-- Why a text does not denote a value of the wanted shape. -/
inductive Fault
  /-- The text is not JSON. -/
  | syntactic
  /-- The text is JSON up to a value of another shape. -/
  | shape
  deriving DecidableEq, Repr

/-- What is reported about a text that does not denote a value of the wanted shape. -/
def Fault.message : Fault → String
  | .syntactic => "the text is not JSON"
  | .shape => "the JSON value has another shape"

/-- The fault of a tree where another shape was wanted. -/
def mismatch : Json → Fault
  | .invalid | .unnamed _ | .broken => .syntactic
  | _ => .shape

/-- A text. -/
def asText : Json → Except Fault String
  | .string s => .ok s
  | j => .error j.mismatch

/-- A text or `null`. -/
def asOptionalText : Json → Except Fault (Option String)
  | .null => .ok none
  | j => j.asText.map some

/-- A truth value. -/
def asBool : Json → Except Fault Bool
  | .bool b => .ok b
  | j => .error j.mismatch

/-- An integer between two bounds. -/
def asInteger (least most : Int) : Json → Except Fault Int
  | .number (.integer n) => if least ≤ n ∧ n ≤ most then .ok n else .error .shape
  | j => .error j.mismatch

/-- A list of values of one shape. -/
def asList {α : Type} (item : Json → Except Fault α) : Json → Except Fault (List α)
  | .array items => items.mapM item
  | j => .error j.mismatch

/-- The members of an object, without any claim on their keys. -/
def asMembers : Json → Except Fault (List (String × Json))
  | .object members => .ok members
  | j => .error j.mismatch

/-- The members of a record with the given field names. A record may also be written as an array of
its fields in order; an item too many stands for a fault of syntax. -/
def asRecord (names : List String) : Json → Except Fault (List (String × Json))
  | .object members => .ok members
  | .array items =>
    .ok (names.zip items ++ ((items.drop names.length).take 1).map fun _ => ("", .broken))
  | j => .error j.mismatch

/-- Puts the value of a field into its place, unless the field has one already. -/
def fill {α : Type} (place : Option α) (value : Except Fault α) : Except Fault (Option α) :=
  match place with
  | some _ => .error .shape
  | none => value.map some

/-- The value of a field that must be given. -/
def required {α : Type} : Option α → Except Fault α
  | some a => .ok a
  | none => .error .shape

mutual

/-- Whether the text of a tree has no fault of syntax, its tokens without a value aside. -/
def isWellFormed : Json → Bool
  | .broken => false
  | .array items => itemsWellFormed items
  | .object members => membersWellFormed members
  | .unnamed value => isWellFormed value
  | _ => true

/-- `isWellFormed` for every item. -/
def itemsWellFormed : List Json → Bool
  | [] => true
  | j :: rest => isWellFormed j && itemsWellFormed rest

/-- `isWellFormed` for every member. -/
def membersWellFormed : List (String × Json) → Bool
  | [] => true
  | (_, j) :: rest => isWellFormed j && membersWellFormed rest

end

/-- Skips the value of a member that is not wanted; only its key must have a value. -/
def skip : Json → Except Fault Unit
  | .unnamed _ => .error .syntactic
  | j => if j.isWellFormed then .ok () else .error .syntactic

mutual

/-- Whether a tree has a value: it is JSON throughout, every token of it has a value, and it is not
nested deeper than `depth`. -/
def hasValue : Nat → Json → Bool
  | _, .broken | _, .unnamed _ | _, .invalid => false
  | 0, .array _ | 0, .object _ => false
  | depth + 1, .array items => itemsHaveValues depth items
  | depth + 1, .object members => membersHaveValues depth members
  | _, _ => true

/-- `hasValue` for every item. -/
def itemsHaveValues : Nat → List Json → Bool
  | _, [] => true
  | depth, j :: rest => hasValue depth j && itemsHaveValues depth rest

/-- `hasValue` for every member. -/
def membersHaveValues : Nat → List (String × Json) → Bool
  | _, [] => true
  | depth, (_, j) :: rest => hasValue depth j && membersHaveValues depth rest

end

/-- A value of any shape, nested no deeper than `depth`. -/
def asValue (depth : Nat) (j : Json) : Except Fault Json :=
  if hasValue depth j then .ok j else .error .syntactic

/-- Decodes a whole text: the value must have the wanted shape, and nothing may follow it. -/
def decode {α : Type} (shape : Json → Except Fault α) (text : String) : Except Fault α :=
  let (value, atEnd) := read text.toList
  match shape value with
  | .ok a => if atEnd then .ok a else .error .syntactic
  | .error fault => .error fault

end LiveModels.Json
