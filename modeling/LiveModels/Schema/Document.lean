import LiveModels.Json.Decoding
import LiveModels.Json.Printer
import LiveModels.Schema.Record
import LiveModels.Schema.RuntimeType

/-!
# Schema documents

A whole schema as one value: the records of each kind, and the type that each property editor gives.
A document is written as JSON and read back from it. Reading fills in the fields that are left out,
ignores unknown ones and refuses known ones that are repeated.
-/

namespace LiveModels

/-- A whole schema. The editors stand in the order of their aliases. -/
structure Document where
  contentTypes : List TypeRecord := []
  mediaTypes : List TypeRecord := []
  memberTypes : List TypeRecord := []
  editors : List (String × RuntimeType) := []
  deriving DecidableEq, Repr, Inhabited

open Json (Fault)

/-- The integers of 32 bits. -/
def Json.asInt32 (j : Json) : Except Fault Int :=
  j.asInteger (-0x80000000) 0x7fffffff

namespace PropertyRecord

/-- The fields of a property that have been read. -/
structure Fields where
  aliasName : Option String := none
  name : Option String := none
  description : Option (Option String) := none
  editorAlias : Option String := none

/-- Reads one member of a property. -/
def Fields.read (f : Fields) (member : String × Json) : Except Fault Fields :=
  let (key, j) := member
  if key = "alias" then do return { f with aliasName := ← Json.fill f.aliasName j.asText }
  else if key = "name" then do return { f with name := ← Json.fill f.name j.asText }
  else if key = "description" then do
    return { f with description := ← Json.fill f.description j.asOptionalText }
  else if key = "editorAlias" then do
    return { f with editorAlias := ← Json.fill f.editorAlias j.asText }
  else do
    j.skip
    return f

/-- The property that a tree denotes. -/
def ofJson (j : Json) : Except Fault PropertyRecord := do
  let members ← j.asRecord ["alias", "name", "description", "editorAlias"]
  let f ← members.foldlM Fields.read {}
  return {
    aliasName := ← Json.required f.aliasName
    name := ← Json.required f.name
    description := f.description.getD none
    editorAlias := ← Json.required f.editorAlias }

/-- The tree of a property; a description is written only if there is one. -/
def toJson (p : PropertyRecord) : Json :=
  .object <|
    [("alias", .string p.aliasName), ("name", .string p.name)]
      ++ (p.description.map fun d => ("description", Json.string d)).toList
      ++ [("editorAlias", .string p.editorAlias)]

end PropertyRecord

namespace TypeRecord

/-- The fields of a record that have been read. -/
structure Fields where
  id : Option Int := none
  aliasName : Option String := none
  name : Option String := none
  description : Option (Option String) := none
  parentId : Option Int := none
  isElement : Option Bool := none
  compositionIds : Option (List Int) := none
  properties : Option (List PropertyRecord) := none

/-- Reads one member of a record. -/
def Fields.read (f : Fields) (member : String × Json) : Except Fault Fields :=
  let (key, j) := member
  if key = "id" then do return { f with id := ← Json.fill f.id j.asInt32 }
  else if key = "alias" then do return { f with aliasName := ← Json.fill f.aliasName j.asText }
  else if key = "name" then do return { f with name := ← Json.fill f.name j.asText }
  else if key = "description" then do
    return { f with description := ← Json.fill f.description j.asOptionalText }
  else if key = "parentId" then do return { f with parentId := ← Json.fill f.parentId j.asInt32 }
  else if key = "isElement" then do return { f with isElement := ← Json.fill f.isElement j.asBool }
  else if key = "compositionIds" then do
    return { f with compositionIds := ← Json.fill f.compositionIds (j.asList Json.asInt32) }
  else if key = "properties" then do
    return { f with properties := ← Json.fill f.properties (j.asList PropertyRecord.ofJson) }
  else do
    j.skip
    return f

/-- The record that a tree denotes. The parent is the root unless it is given. -/
def ofJson (j : Json) : Except Fault TypeRecord := do
  let members ← j.asRecord
    ["id", "alias", "name", "description", "parentId", "isElement", "compositionIds", "properties"]
  let f ← members.foldlM Fields.read {}
  return {
    id := ← Json.required f.id
    aliasName := ← Json.required f.aliasName
    name := ← Json.required f.name
    description := f.description.getD none
    parentId := f.parentId.getD (-1)
    isElement := f.isElement.getD false
    compositionIds := f.compositionIds.getD []
    properties := f.properties.getD [] }

/-- The tree of a record; a description is written only if there is one. -/
def toJson (r : TypeRecord) : Json :=
  .object <|
    [("id", Json.int r.id), ("alias", .string r.aliasName), ("name", .string r.name)]
      ++ (r.description.map fun d => ("description", Json.string d)).toList
      ++ [("parentId", Json.int r.parentId), ("isElement", .bool r.isElement),
        ("compositionIds", .array (r.compositionIds.map Json.int)),
        ("properties", .array (r.properties.map PropertyRecord.toJson))]

end TypeRecord

namespace Document

/-- The table with the type of an editor set, in the order of the aliases. -/
def insertEditor (aliasName : String) (type : RuntimeType) :
    List (String × RuntimeType) → List (String × RuntimeType)
  | [] => [(aliasName, type)]
  | (a, t) :: rest =>
    if aliasName = a then (aliasName, type) :: rest
    else if aliasName < a then (aliasName, type) :: (a, t) :: rest
    else (a, t) :: insertEditor aliasName type rest

/-- The runtime type that a tree denotes. -/
def typeOfJson (j : Json) : Except Fault RuntimeType := do
  match RuntimeType.ofText (← j.asText) with
  | .ok t => return t
  | .error _ => throw .shape

/-- The editor table that a tree denotes; of a repeated alias the last type counts. -/
def editorsOfJson (j : Json) : Except Fault (List (String × RuntimeType)) := do
  let members ← j.asMembers
  members.foldlM (fun table m => do return insertEditor m.1 (← typeOfJson m.2) table) []

/-- The fields of a document that have been read. -/
structure Fields where
  contentTypes : Option (List TypeRecord) := none
  mediaTypes : Option (List TypeRecord) := none
  memberTypes : Option (List TypeRecord) := none
  editors : Option (List (String × RuntimeType)) := none

/-- Reads one member of a document. -/
def Fields.read (f : Fields) (member : String × Json) : Except Fault Fields :=
  let (key, j) := member
  if key = "contentTypes" then do
    return { f with contentTypes := ← Json.fill f.contentTypes (j.asList TypeRecord.ofJson) }
  else if key = "mediaTypes" then do
    return { f with mediaTypes := ← Json.fill f.mediaTypes (j.asList TypeRecord.ofJson) }
  else if key = "memberTypes" then do
    return { f with memberTypes := ← Json.fill f.memberTypes (j.asList TypeRecord.ofJson) }
  else if key = "editors" then do
    return { f with editors := ← Json.fill f.editors (editorsOfJson j) }
  else do
    j.skip
    return f

/-- The document that a tree denotes; every field may be left out. -/
def ofJson (j : Json) : Except Fault Document := do
  let members ← j.asRecord ["contentTypes", "mediaTypes", "memberTypes", "editors"]
  let f ← members.foldlM Fields.read {}
  return {
    contentTypes := f.contentTypes.getD []
    mediaTypes := f.mediaTypes.getD []
    memberTypes := f.memberTypes.getD []
    editors := f.editors.getD [] }

/-- The tree of a document. -/
def toJson (d : Document) : Json :=
  .object [
    ("contentTypes", .array (d.contentTypes.map TypeRecord.toJson)),
    ("mediaTypes", .array (d.mediaTypes.map TypeRecord.toJson)),
    ("memberTypes", .array (d.memberTypes.map TypeRecord.toJson)),
    ("editors", .object (d.editors.map fun e => (e.1, Json.string e.2.text)))]

/-- The document that a text denotes. -/
def parse (text : String) : Except Fault Document :=
  Json.decode ofJson text

/-- The text of a document. -/
def print (d : Document) : String :=
  d.toJson.compact

/-- The type that an editor gives. -/
def editorType? (d : Document) (editorAlias : String) : Option RuntimeType :=
  (d.editors.find? fun e => e.1 == editorAlias).map (·.2)

end Document

end LiveModels
