import LiveModels.Files.Path
import LiveModels.Registry.Element

/-!
# Compiled modules

A compiled module exports types. A type that is a model has constructors, of which one should make a
typed model from an element.
-/

namespace LiveModels

/-- What a constructor takes as a parameter. -/
inductive Parameter
  /-- An element. -/
  | element
  /-- An element that is published content. -/
  | content
  | other (name : String)
  deriving DecidableEq, Repr, Inhabited

/-- Whether an element can be given for a parameter. -/
def Parameter.acceptsElement : Parameter → Bool
  | .element | .content => true
  | .other _ => false

/-- A constructor. What it makes of an element is up to the module. -/
structure Constructor where
  isPublic : Bool
  parameters : List Parameter
  invoke : Element → Element
  deriving Inhabited

/-- The name of a typed model stands for what makes this model of an element. -/
instance : Coe String (Element → Element) :=
  ⟨Element.typed⟩

/-- Whether a constructor is public and takes one element. -/
def Constructor.isAccepted (c : Constructor) : Bool :=
  c.isPublic && match c.parameters with
    | [p] => p.acceptsElement
    | _ => false

/-- A type that a module exports; the alias is that of its annotation. -/
structure ExportedType where
  typeName : String
  aliasName : Option String
  isModel : Bool
  type : RuntimeType
  constructors : List Constructor
  deriving Inhabited

/-- The alias for which a type wants to be the model. -/
def ExportedType.effectiveAlias (t : ExportedType) : String :=
  t.aliasName.getD t.typeName

/-- A compiled module: its name, where it was loaded from or written to, and the header of the
source that it was compiled from. -/
structure Module where
  name : String
  location : Path
  fingerprint : String
  revision : UInt64
  types : List ExportedType
  deriving Inhabited

end LiveModels
