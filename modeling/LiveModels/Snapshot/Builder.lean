import LiveModels.Naming.Policy
import LiveModels.Schema.Store
import LiveModels.Snapshot.Basic

/-!
# Building snapshots

A schema becomes a snapshot if its aliases and binding names are unique, its compositions name
records, and the properties of every record have a type and are unique. The checks are made in this
order, and the first that fails gives the error.
-/

namespace LiveModels.Snapshot

/-- A record with the kind under which it is stored and the kind of item that it describes. -/
structure Entry where
  stored : ItemKind
  kind : ItemKind
  record : TypeRecord
  deriving DecidableEq, Repr

/-! ### Records -/

/-- The kind of item that a record describes. Only content can be flagged as an element. -/
def itemKind (stored : ItemKind) (r : TypeRecord) : Except SchemaError ItemKind :=
  match stored, r.isElement with
  | .content, true => .ok .element
  | .element, false => .error (.unsupportedItemKind r.aliasName ItemKind.element.label)
  | kind, false => .ok kind
  | kind, true => .error (.unsupportedItemKind r.aliasName (kind.label ++ " element"))

/-- The records of one kind with the kinds of items that they describe. -/
def entriesOf (view : SchemaView) (stored : ItemKind) : Except SchemaError (List Entry) := do
  let records ← view.records stored
  records.mapM fun r => do return ⟨stored, ← itemKind stored r, r⟩

/-- The records of all kinds, in the order in which the kinds are read. -/
def entries (view : SchemaView) : Except SchemaError (List Entry) := do
  return (← ItemKind.stored.mapM (entriesOf view)).flatten

/-- The type that a record describes, apart from its links and properties. -/
def describe (policy : NamingPolicy) (e : Entry) : TypeDescriptor where
  id := e.record.id
  aliasName := e.record.aliasName
  bindingName := policy.bindingName e.record.aliasName e.record.name
  parentId := e.record.parentId
  displayName := e.record.name
  description := e.record.description
  kind := e.kind

/-! ### Uniqueness -/

/-- The labels of the entries that share their key with another entry. -/
def shared (keyed : List (String × String)) : List String :=
  (keyed.filter fun e => decide (1 < keyed.countP fun other => other.1 == e.1)).map (·.2)

/-- The labels of the types whose aliases agree up to letter case, in an order that does not depend
on letter case. -/
def aliasCollisions (types : List TypeDescriptor) : List String :=
  let label (t : TypeDescriptor) : String :=
    t.aliasName ++ " (id " ++ Text.signedDecimal t.id ++ ", " ++ t.kind.label ++ ")"
  (shared (types.map fun t => (Text.lower t.aliasName, label t))).mergeSort fun a b =>
    decide (Text.lower a ≤ Text.lower b)

/-- The labels of the types that share a binding name. -/
def bindingCollisions (types : List TypeDescriptor) : List String :=
  let label (t : TypeDescriptor) : String :=
    t.aliasName ++ " -> " ++ t.bindingName ++ " (id " ++ Text.signedDecimal t.id ++ ")"
  sortedTexts (shared (types.map fun t => (t.bindingName, label t)))

/-- The labels of the properties of a type that share an alias up to letter case, and then of those
that share a binding name. -/
def propertyCollisions (properties : List PropertyDescriptor) : List String :=
  sortedTexts (shared (properties.map fun p => (Text.lower p.aliasName, "alias " ++ p.aliasName)))
    ++ sortedTexts
      (shared (properties.map fun p => (p.bindingName, p.aliasName ++ " -> " ++ p.bindingName)))

/-! ### Links -/

/-- The base of a type: its parent, if that is another type. -/
def baseIn (types : List TypeDescriptor) (t : TypeDescriptor) : Option Int :=
  if t.parentId ≠ t.id ∧ types.any (fun other => other.id == t.parentId) then some t.parentId
  else none

/-- The types of which a record is composed beside itself and its parent. -/
def composed (r : TypeRecord) : List Int :=
  r.compositionIds.filter fun id => decide (id ≠ r.parentId ∧ id ≠ r.id)

/-- The first type that a record is composed of and that does not exist. -/
def unknownComposition? (types : List TypeDescriptor) (r : TypeRecord) : Option Int :=
  (composed r).find? fun id => !types.any fun t => t.id == id

/-- The ids of the mixins: the types that others are composed of, and the bases of these. -/
def mixinIds (s : Snapshot) (composedIds : List Int) : List Int :=
  composedIds.foldl
    (fun marked id => marked ++ (s.follow (s.types.length + 1) marked (some id)).map (·.id)) []

/-- The types with those marked as mixins that answer for one of the given ids. -/
def markMixins (ids : List Int) : List TypeDescriptor → List TypeDescriptor
  | [] => []
  | t :: rest =>
    (if t.id ∈ ids ∧ rest.all (fun other => other.id != t.id) then { t with isMixin := true }
      else t) :: markMixins ids rest

/-! ### Properties -/

/-- A property with its type. -/
def describeProperty (view : SchemaView) (policy : NamingPolicy) (e : Entry) (p : PropertyRecord) :
    Except SchemaError PropertyDescriptor :=
  match view.propertyType e.stored p with
  | .ok (some type) => .ok {
      aliasName := p.aliasName
      bindingName := policy.bindingName p.aliasName p.name
      displayName := p.name
      description := p.description
      type := type }
  | .ok none => .error (.unresolvedPropertyType e.record.aliasName p.aliasName
      ("no runtime type for editor '" ++ p.editorAlias ++ "'"))
  | .error cause => .error (.unresolvedPropertyType e.record.aliasName p.aliasName cause.message)

/-- The properties of a record, if they are unique. -/
def describeProperties (view : SchemaView) (policy : NamingPolicy) (e : Entry) :
    Except SchemaError (List PropertyDescriptor) := do
  let properties ← e.record.properties.mapM (describeProperty view policy e)
  match propertyCollisions properties with
  | [] => return properties
  | colliding => throw (.duplicateProperty e.record.aliasName colliding)

/-! ### Snapshots -/

/-- The snapshot of a schema. -/
def ofView (view : SchemaView) (policy : NamingPolicy) : Except SchemaError Snapshot := do
  let es ← entries view
  let described := es.map (describe policy)
  unless (aliasCollisions described).isEmpty do
    throw (.duplicateAlias (aliasCollisions described))
  unless (bindingCollisions described).isEmpty do
    throw (.duplicateBindingName (bindingCollisions described))
  es.forM fun e =>
    match unknownComposition? described e.record with
    | some id => throw (.unknownComposition e.record.aliasName id)
    | none => return ()
  let linked := es.map fun e =>
    let t := describe policy e
    { t with base := baseIn described t, mixins := ascending (composed e.record) }
  let marked := markMixins
    (mixinIds ⟨linked⟩ (es.flatMap fun e => composed e.record)) linked
  let properties ← es.mapM (describeProperties view policy)
  return ⟨List.zipWith (fun t ps => { t with properties := ps }) marked properties⟩

/-- The snapshot of the schema that a store holds. -/
def build (tree : Tree) (store : Store) (policy : NamingPolicy) : Except SchemaError Snapshot := do
  ofView (← store.buildView tree) policy

end LiveModels.Snapshot
