import LiveModels.Json.Basic
import LiveModels.Schema.RuntimeType

/-!
# Elements

What rendering hands in, an untyped bag of values, and what it gets back: the bag itself, or a typed
model around it. A model has the key, the alias and the values of the element inside.
-/

namespace LiveModels

/-- The values of a bag by property alias; of a repeated alias the last value counts. -/
abbrev Values := List (String × Json)

/-- An element. -/
inductive Element
  /-- An untyped bag of values. -/
  | bag (key aliasName : String) (values : Values)
  /-- The typed model with a name around an element. -/
  | typed (typeName : String) (inner : Element)
  deriving Repr, Inhabited

namespace Element

/-- The key of an element. -/
def key : Element → String
  | .bag key _ _ => key
  | .typed _ inner => inner.key

/-- The alias of the content type of an element. -/
def contentTypeAlias : Element → String
  | .bag _ aliasName _ => aliasName
  | .typed _ inner => inner.contentTypeAlias

/-- The value of a property. -/
def value? (property : String) : Element → Option Json
  | .bag _ _ values => (values.reverse.find? fun v => v.1 == property).map (·.2)
  | .typed _ inner => inner.value? property

/-- The name of the typed model, if the element is one. -/
def modelType? : Element → Option String
  | .bag _ _ _ => none
  | .typed name _ => some name

/-- The number of typed models around the bag. -/
def layers : Element → Nat
  | .bag _ _ _ => 0
  | .typed _ inner => inner.layers + 1

end Element

/-- A list of elements of one type. -/
structure ModelList where
  elementType : RuntimeType
  items : List Element := []
  deriving Repr, Inhabited

namespace ModelList

/-- An empty list of elements without a typed model. -/
def generic : ModelList :=
  ⟨.element, []⟩

/-- The list with an element added at its end. -/
def push (l : ModelList) (e : Element) : ModelList :=
  { l with items := l.items ++ [e] }

end ModelList

end LiveModels
