import LiveModels.Text.Number

/-!
# Records of content types

Content types as the schema keeps them.
-/

namespace LiveModels

/-- What a content type describes. Elements have no existence of their own: they are stored as
content types that are flagged. -/
inductive ItemKind
  | content
  | media
  | member
  | element
  deriving DecidableEq, Repr, Inhabited

/-- The name of a kind. -/
def ItemKind.label : ItemKind → String
  | .content => "Content"
  | .media => "Media"
  | .member => "Member"
  | .element => "Element"

/-- The kinds that a schema stores records of, in the order in which they are read. -/
def ItemKind.stored : List ItemKind :=
  [.content, .media, .member]

/-- A property of a content type as stored; its editor decides about its type. -/
structure PropertyRecord where
  aliasName : String
  name : String
  description : Option String
  editorAlias : String
  deriving DecidableEq, Repr, Inhabited

/-- A content type as stored. The parent is -1 at the root and need not be a content type; the
compositions may include the parent. Ids are integers of 32 bits. -/
structure TypeRecord where
  id : Int
  aliasName : String
  name : String
  description : Option String
  parentId : Int
  isElement : Bool
  compositionIds : List Int
  properties : List PropertyRecord
  deriving DecidableEq, Repr, Inhabited

end LiveModels
