import LiveModels.Error
import LiveModels.Json.Decoding
import LiveModels.Json.Printer
import LiveModels.Source.Bundle

/-!
# Manifests

A module is compiled to a manifest: a JSON text with the name of the module, the header of its
source, and the models that the source declares. Loading reads the manifest back. Every declared
model is exported as a type with one public constructor that takes an element.
-/

namespace LiveModels

/-- What a compiled module consists of. -/
structure Manifest where
  name : String
  fingerprint : String
  revision : UInt64
  types : List Declaration
  deriving DecidableEq, Repr, Inhabited

open Json (Fault)

namespace Declaration

/-- The fields of a declaration that have been read. -/
structure Fields where
  typeName : Option String := none
  aliasName : Option (Option String) := none

/-- Reads one member of a declaration. -/
def Fields.read (f : Fields) (member : String × Json) : Except Fault Fields :=
  let (key, j) := member
  if key = "type_name" then do return { f with typeName := ← Json.fill f.typeName j.asText }
  else if key = "alias" then do
    return { f with aliasName := ← Json.fill f.aliasName j.asOptionalText }
  else do
    j.skip
    return f

/-- The declaration that a tree denotes. -/
def ofJson (j : Json) : Except Fault Declaration := do
  let members ← j.asRecord ["type_name", "alias"]
  let f ← members.foldlM Fields.read {}
  return { typeName := ← Json.required f.typeName, aliasName := f.aliasName.getD none }

/-- The tree of a declaration. -/
def toJson (d : Declaration) : Json :=
  .object <|
    ("type_name", .string d.typeName)
      :: (d.aliasName.map fun a => ("alias", Json.string a)).toList

/-- The type that is exported for a declaration. -/
def exported (d : Declaration) : ExportedType where
  typeName := d.typeName
  aliasName := d.aliasName
  isModel := true
  type := .named d.typeName
  constructors := [⟨true, [.element], d.typeName⟩]

end Declaration

namespace Manifest

/-- A revision: an integer of 64 bits without a sign. -/
def revisionOfJson (j : Json) : Except Fault UInt64 := do
  let n ← j.asInteger 0 Text.largestWord
  return UInt64.ofNat n.toNat

/-- The fields of a manifest that have been read. -/
structure Fields where
  name : Option String := none
  fingerprint : Option String := none
  revision : Option UInt64 := none
  types : Option (List Declaration) := none

/-- Reads one member of a manifest. -/
def Fields.read (f : Fields) (member : String × Json) : Except Fault Fields :=
  let (key, j) := member
  if key = "name" then do return { f with name := ← Json.fill f.name j.asText }
  else if key = "fingerprint" then do
    return { f with fingerprint := ← Json.fill f.fingerprint j.asText }
  else if key = "revision" then do
    return { f with revision := ← Json.fill f.revision (revisionOfJson j) }
  else if key = "types" then do
    return { f with types := ← Json.fill f.types (j.asList Declaration.ofJson) }
  else do
    j.skip
    return f

/-- The manifest that a tree denotes; every field must be given. -/
def ofJson (j : Json) : Except Fault Manifest := do
  let members ← j.asRecord ["name", "fingerprint", "revision", "types"]
  let f ← members.foldlM Fields.read {}
  return {
    name := ← Json.required f.name
    fingerprint := ← Json.required f.fingerprint
    revision := ← Json.required f.revision
    types := ← Json.required f.types }

/-- The tree of a manifest. -/
def toJson (m : Manifest) : Json :=
  .object [
    ("name", .string m.name),
    ("fingerprint", .string m.fingerprint),
    ("revision", Json.int m.revision.toNat),
    ("types", .array (m.types.map Declaration.toJson))]

/-- The text of a manifest. -/
def print (m : Manifest) : String :=
  m.toJson.pretty

/-- The manifest that a text denotes. -/
def parse (text : String) : Except Fault Manifest :=
  Json.decode ofJson text

/-- The module that a manifest at a path stands for. -/
def toModule (m : Manifest) (location : Path) : Module where
  name := m.name
  location := location
  fingerprint := m.fingerprint
  revision := m.revision
  types := m.types.map Declaration.exported

/-- The manifest of a source, which is refused if it asks for a compile error or has no header. -/
def ofSource (moduleName source : String) : Except CompileError Manifest :=
  match findCompileError? source.toList with
  | some text => .error ⟨moduleName, String.ofList text⟩
  | none =>
    match Bundle.header? source with
    | none => .error ⟨moduleName, "source bundle has no header"⟩
    | some header =>
      .ok ⟨moduleName, header.fingerprint, header.revision, Declaration.declared source⟩

/-- What is reported about a failure at a path while a module is written. -/
def fileError (moduleName : String) (path : Path) (fault : FileFault) : CompileError :=
  ⟨moduleName, path.text ++ ": " ++ fault.message⟩

/-- Writes a manifest to a path in a directory that exists. -/
def write (m : Manifest) (tree : Tree) (output : Path) : Tree × Except CompileError Module :=
  match tree.write output (.text m.print) with
  | .ok tree => (tree, .ok (m.toModule output))
  | .error fault => (tree, .error (fileError m.name output fault))

/-- Writes a manifest to a path, whose directories are made. -/
def save (m : Manifest) (tree : Tree) (output : Path) : Tree × Except CompileError Module :=
  match output.parent? with
  | none => m.write tree output
  | some directory =>
    match tree.makeDirectories directory with
    | (tree, .ok _) => m.write tree output
    | (tree, .error fault) => (tree, .error (fileError m.name directory fault))

/-- Writes the manifest of a source to a path. -/
def compile (tree : Tree) (moduleName source : String) (output : Path) :
    Tree × Except CompileError Module :=
  match ofSource moduleName source with
  | .error e => (tree, .error e)
  | .ok manifest => manifest.save tree output

/-- Loads the module that was written to a path. -/
def load (tree : Tree) (location : Path) : Except CompileError Module :=
  match tree.readText location with
  | .error fault => .error ⟨location.text, fault.message⟩
  | .ok text =>
    match parse text with
    | .error fault => .error ⟨location.text, fault.message⟩
    | .ok manifest => .ok (manifest.toModule location)

end Manifest

end LiveModels
