import LiveModels.Snapshot.Descriptor
import LiveModels.Text.Casing

/-!
# Snapshots

All content types of a schema at one point in time, and the questions about their links. Bases may
form cycles and ids may repeat; of several types with one id the last one answers for it.
-/

namespace LiveModels

/-- The content types of a schema at one point in time. -/
structure Snapshot where
  types : List TypeDescriptor
  deriving DecidableEq, Repr, Inhabited

namespace Snapshot

/-- The type with an id. -/
def get? (s : Snapshot) (id : Int) : Option TypeDescriptor :=
  s.types.reverse.find? fun t => t.id == id

/-- The first type with an alias, without regard to ASCII letter case. -/
def findAlias? (s : Snapshot) (aliasName : String) : Option TypeDescriptor :=
  s.types.find? fun t => Text.lowerAscii t.aliasName == Text.lowerAscii aliasName

/-- The base of a type. -/
def baseOf? (s : Snapshot) (t : TypeDescriptor) : Option TypeDescriptor :=
  t.base.bind s.get?

/-- The mixins of a type, in the order of their ids. -/
def mixinsOf (s : Snapshot) (t : TypeDescriptor) : List TypeDescriptor :=
  t.mixins.filterMap s.get?

/-- The types met on the way from an id along the bases, up to an id in `seen`, one met before, or
one without a type. At most `fuel` types are met. -/
def follow (s : Snapshot) : Nat → List Int → Option Int → List TypeDescriptor
  | 0, _, _ => []
  | _ + 1, _, none => []
  | fuel + 1, seen, some id =>
    if id ∈ seen then []
    else match s.get? id with
      | none => []
      | some t => t :: follow s fuel (id :: seen) t.base

/-- The bases of the type with an id, the nearest first; the chain ends before it would repeat. -/
def ancestors (s : Snapshot) (id : Int) : List TypeDescriptor :=
  s.follow (s.types.length + 1) [id] ((s.get? id).bind (·.base))

/-- The binding name of the type whose alias has the given lower-case form. -/
def bindingName? (s : Snapshot) (lowered : String) : Option String :=
  (s.types.reverse.find? fun t => Text.lower t.aliasName == lowered).map (·.bindingName)

/-- The binding names of all types by the lower-case forms of their aliases. -/
def bindingNames (s : Snapshot) : List (String × String) :=
  ((s.types.map fun t => Text.lower t.aliasName).eraseDups).filterMap fun key =>
    (s.bindingName? key).map fun name => (key, name)

/-- The types in the order of their aliases. -/
def byAlias (s : Snapshot) : List TypeDescriptor :=
  s.types.mergeSort fun a b => decide (a.aliasName ≤ b.aliasName)

end Snapshot

end LiveModels
