import LiveModels.Compiled.Module
import LiveModels.Text.Casing
import LiveModels.Text.Quoted
import LiveModels.Snapshot.Descriptor

/-!
# Model registries

The models of a compiled module by the alias of their content type, without regard to letter case.
A module is registered as a whole or not at all: every model needs exactly one constructor that
takes an element, and no two models may claim one alias.
-/

namespace LiveModels

/-- Why a module cannot be registered. -/
inductive ShapeError
  | missing (typeName : String)
  | ambiguous (typeName : String) (count : Nat)
  | duplicateAlias (aliasName first second : String)
  deriving DecidableEq, Repr

/-- What is reported about a module that cannot be registered. -/
def ShapeError.message : ShapeError → String
  | .missing typeName =>
    "Type " ++ typeName
      ++ " is missing a public constructor with one argument accepting an element facade"
  | .ambiguous typeName count =>
    "Type " ++ typeName ++ " has " ++ Text.decimal count
      ++ " public constructors with one argument accepting an element facade, expected exactly one"
  | .duplicateAlias aliasName first second =>
    "Both types " ++ first ++ " and " ++ second ++ " want to be the model for content type alias "
      ++ Text.quote aliasName

/-- A registered model. -/
structure RegistryEntry where
  aliasName : String
  typeName : String
  type : RuntimeType
  constructor : Constructor
  deriving Inhabited

/-- The form of an alias under which models are looked up. -/
def RegistryEntry.key (e : RegistryEntry) : String :=
  Text.lower e.aliasName

/-- The models of a module. -/
structure Registry where
  entries : List RegistryEntry := []
  deriving Inhabited

namespace Registry

/-- The registry without models. -/
def empty : Registry := {}

/-- The model for an alias. -/
def get? (r : Registry) (aliasName : String) : Option RegistryEntry :=
  r.entries.find? fun e => e.key == Text.lower aliasName

/-- The registry with one more exported type, which has to be a model. -/
def register (r : Registry) (t : ExportedType) : Except ShapeError Registry :=
  match t.constructors.filter Constructor.isAccepted with
  | [] => .error (.missing t.typeName)
  | [c] =>
    match r.get? t.effectiveAlias with
    | some existing => .error (.duplicateAlias t.effectiveAlias existing.typeName t.typeName)
    | none => .ok ⟨r.entries ++ [⟨t.effectiveAlias, t.typeName, t.type, c⟩]⟩
  | accepted => .error (.ambiguous t.typeName accepted.length)

/-- The registry of the exported types of a module. -/
def ofTypes (types : List ExportedType) : Except ShapeError Registry :=
  (types.filter (·.isModel)).foldlM register empty

/-- The registry of a module. -/
def build (m : Module) : Except ShapeError Registry :=
  ofTypes m.types

/-- The number of models. -/
def size (r : Registry) : Nat :=
  r.entries.length

/-- The aliases of the models, in ascending order. -/
def aliases (r : Registry) : List String :=
  sortedTexts (r.entries.map (·.aliasName))

/-- The typed model of an element, or the element itself if there is no model for its alias. -/
def createModel (r : Registry) (e : Element) : Element :=
  match r.get? e.contentTypeAlias with
  | some entry => entry.constructor.invoke e
  | none => e

/-- An empty list for the models of an alias. -/
def createList (r : Registry) (aliasName : String) : ModelList :=
  match r.get? aliasName with
  | some entry => ⟨entry.type, []⟩
  | none => .generic

/-- The type that a reference to a model stands for. -/
def resolve (r : Registry) (aliasName : String) : RuntimeType :=
  match r.get? aliasName with
  | some entry => entry.type
  | none => .element

/-- A type with the references to models replaced. -/
def mapType (r : Registry) (t : RuntimeType) : RuntimeType :=
  t.mapModels r.resolve

end Registry

end LiveModels
