import LiveModels.Schema.Document
import LiveModels.Schema.Error
import LiveModels.Files.Tree

/-!
# Schema stores

Where a schema is read from. What a build sees of a store is a `SchemaView`; a store that can give
its whole schema at once does so when it is captured, and then the build reads the captured document
alone.
-/

namespace LiveModels

/-- The questions that a build asks about a schema. -/
structure SchemaView where
  /-- The records of one stored kind. -/
  records : ItemKind → Except SchemaError (List TypeRecord)
  /-- The type of a property, or nothing if the store cannot tell. -/
  propertyType : ItemKind → PropertyRecord → Except SchemaError (Option RuntimeType)

namespace Document

/-- The records of a kind. Elements are stored as content and cannot be asked for. -/
def records (d : Document) : ItemKind → Except SchemaError (List TypeRecord)
  | .content => .ok d.contentTypes
  | .media => .ok d.mediaTypes
  | .member => .ok d.memberTypes
  | .element => .error (.unsupportedItemKind "*" ItemKind.element.label)

/-- A document as the view of a schema. -/
def view (d : Document) : SchemaView where
  records := d.records
  propertyType _ p := .ok (d.editorType? p.editorAlias)

end Document

/-- The failures of a store that answers like a document otherwise. -/
structure StoreFaults where
  capture : Option String := none
  records : Option (ItemKind × String) := none
  property : Option (String × String) := none
  deriving Inhabited

/-- A place from which a schema is read. -/
inductive Store
  /-- A document held in memory, captured as a whole. -/
  | memory (document : Document)
  /-- A document that is asked directly and never captured. -/
  | direct (document : Document)
  /-- A file that holds the JSON of a document and is read anew for every question. -/
  | file (path : Path)
  /-- A document behind failures. -/
  | faulty (document : Document) (faults : StoreFaults)
  deriving Inhabited

namespace Store

/-- Reads the document of a file. -/
def loadFile (tree : Tree) (path : Path) : Except SchemaError Document :=
  match tree.readText path with
  | .error fault =>
    .error (.store ("Failed to read schema file " ++ Text.quote path.text ++ ": " ++ fault.message))
  | .ok text =>
    match Document.parse text with
    | .ok d => .ok d
    | .error fault =>
      .error (.store
        ("Failed to parse schema file " ++ Text.quote path.text ++ ": " ++ fault.message))

/-- What a store answers when it is asked directly. -/
def view (tree : Tree) : Store → SchemaView
  | .memory d | .direct d => d.view
  | .file path => {
      records := fun kind => do (← loadFile tree path).records kind
      propertyType := fun _ p => do return (← loadFile tree path).editorType? p.editorAlias }
  | .faulty d faults => {
      records := fun kind =>
        match faults.records with
        | some (k, text) => if k = kind then .error (.store text) else d.records kind
        | none => d.records kind
      propertyType := fun kind p =>
        match faults.property with
        | some (aliasName, text) =>
          if aliasName = p.aliasName then .error (.store text) else d.view.propertyType kind p
        | none => d.view.propertyType kind p }

/-- The whole schema at once, if the store gives it. -/
def capture (tree : Tree) : Store → Except SchemaError (Option Document)
  | .memory d => .ok (some d)
  | .direct _ => .ok none
  | .file path => (loadFile tree path).map some
  | .faulty _ faults =>
    match faults.capture with
    | some text => .error (.store text)
    | none => .ok none

/-- The view that a build reads: the captured document if there is one. -/
def buildView (tree : Tree) (store : Store) : Except SchemaError SchemaView :=
  match store.capture tree with
  | .error e => .error e
  | .ok (some d) => .ok d.view
  | .ok none => .ok (store.view tree)

end Store

end LiveModels
