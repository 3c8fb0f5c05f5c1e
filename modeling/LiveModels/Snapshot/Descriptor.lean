import LiveModels.Schema.Record
import LiveModels.Schema.RuntimeType

/-!
# Type descriptors

Content types as code is generated from them: with binding names, with the links to their bases and
mixins, and with the types of their properties. Links are ids.
-/

namespace LiveModels

/-- A property of a content type. -/
structure PropertyDescriptor where
  aliasName : String
  bindingName : String
  displayName : String
  description : Option String
  type : RuntimeType
  deriving DecidableEq, Repr, Inhabited

/-- A content type. The base is the parent, if the parent is itself a content type; the mixins are
the ids of the other types it is composed of, in ascending order. -/
structure TypeDescriptor where
  id : Int
  aliasName : String
  bindingName : String
  parentId : Int
  displayName : String
  description : Option String
  kind : ItemKind
  base : Option Int := none
  mixins : List Int := []
  isMixin : Bool := false
  properties : List PropertyDescriptor := []
  deriving DecidableEq, Repr, Inhabited

/-- An ascending list with `n` added, unless it is there already. -/
def insertAscending (n : Int) : List Int → List Int
  | [] => [n]
  | m :: rest =>
    if n = m then m :: rest
    else if n < m then n :: m :: rest
    else m :: insertAscending n rest

/-- The members of a list in ascending order, each once. -/
def ascending (ns : List Int) : List Int :=
  ns.foldl (fun acc n => insertAscending n acc) []

/-- The texts in ascending order. -/
def sortedTexts (texts : List String) : List String :=
  texts.mergeSort fun a b => decide (a ≤ b)

end LiveModels
