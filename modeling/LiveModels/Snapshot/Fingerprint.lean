import LiveModels.Digest.Combiner
import LiveModels.Snapshot.Basic

/-!
# Fingerprints

The fingerprint of the files that users write and of the types of a snapshot is the hash of a
sequence of tokens. It does not depend on the order of the types, nor on that of the properties of a
type; files count in the order in which they are given.
-/

namespace LiveModels.Fingerprint

/-- The token of a file. -/
def fileToken (file : String × String) : Token :=
  .text (file.1 ++ "::" ++ file.2)

/-- The tokens of a property. -/
def propertyTokens (p : PropertyDescriptor) : List Token := [
  .text "--- PROPERTY ---",
  .text p.aliasName,
  .text p.bindingName,
  .text p.displayName,
  .text (p.description.getD ""),
  .text p.type.text]

/-- The properties of a type in the order of their aliases. -/
def sortedProperties (t : TypeDescriptor) : List PropertyDescriptor :=
  t.properties.mergeSort fun a b => decide (a.aliasName ≤ b.aliasName)

/-- The tokens of a type. -/
def typeTokens (t : TypeDescriptor) : List Token :=
  [.text "--- CONTENT TYPE MODEL ---",
    .int t.id,
    .text t.aliasName,
    .text t.bindingName,
    .int t.parentId,
    .text t.displayName,
    .text (t.description.getD ""),
    .text t.kind.label,
    .text ("MIXINS:" ++ ",".intercalate (t.mixins.map Text.signedDecimal))]
    ++ (sortedProperties t).flatMap propertyTokens

/-- The tokens of files and types. -/
def tokens (files : List (String × String)) (types : List TypeDescriptor) : List Token :=
  files.map fileToken ++ (Snapshot.mk types).byAlias.flatMap typeTokens

/-- The fingerprint of files and types. -/
def compute (files : List (String × String)) (types : List TypeDescriptor) : String :=
  Combiner.text (Combiner.run (tokens files types))

end LiveModels.Fingerprint
