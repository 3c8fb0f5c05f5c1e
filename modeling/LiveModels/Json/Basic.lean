import LiveModels.Json.Double

/-!
# JSON values

The tree that a JSON text denotes. Reading goes from left to right and keeps what it has read when
the text turns out not to be JSON, so that a reader of trees finds the first fault of a text,
whether it is one of syntax or one of shape. `Json.broken` marks the place where a text stops being
JSON, `Json.invalid` a token that is complete but has no value, and `Json.unnamed` a member whose
key is such a token.
-/

namespace LiveModels

/-- A number: an integer of 64 bits, signed or unsigned, or a number of double precision. -/
inductive Number
  | integer (value : Int)
  | decimal (negative : Bool) (magnitude : Double)
  deriving DecidableEq, Repr, Inhabited

/-- A JSON value. The members of an object stand in the order of the text and may repeat a key. -/
inductive Json
  | null
  | bool (value : Bool)
  | number (value : Number)
  | string (value : String)
  | array (items : List Json)
  | object (members : List (String × Json))
  /-- A string with an unpaired surrogate, or a number beyond the range: it may be skipped, not
  used. -/
  | invalid
  /-- The value of a member whose key has no value. The member stands under the empty key. -/
  | unnamed (value : Json)
  /-- The place where the text stops being JSON; nothing follows it. -/
  | broken
  deriving Repr, Inhabited

namespace Json

/-- An integer as a JSON value. -/
def int (value : Int) : Json :=
  .number (.integer value)

/-- The value or `null`. -/
def ofOption {α : Type} (f : α → Json) : Option α → Json
  | none => .null
  | some a => f a

/-- The last value of a key. -/
def get? (key : String) : Json → Option Json
  | .object members => (members.reverse.find? (fun m => m.1 == key)).map (·.2)
  | _ => none

end Json

end LiveModels
