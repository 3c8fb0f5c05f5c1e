import LiveModels.Schema.Record
import LiveModels.Text.Quoted

/-!
# Faults of a schema

The reasons for which a schema cannot be turned into a consistent set of types, and what is reported
about each.
-/

namespace LiveModels

/-- Why a schema gives no snapshot. -/
inductive SchemaError
  | duplicateAlias (colliding : List String)
  | duplicateBindingName (colliding : List String)
  | duplicateProperty (typeAlias : String) (colliding : List String)
  | unresolvedPropertyType (typeAlias propertyAlias reason : String)
  | unsupportedItemKind (aliasName kind : String)
  | unknownComposition (typeAlias : String) (compositionId : Int)
  | store (text : String)
  deriving DecidableEq, Repr

/-- What is reported about a fault. -/
def SchemaError.message : SchemaError → String
  | .duplicateAlias colliding =>
    "Duplicate content type alias (aliases are case-insensitive): " ++ ", ".intercalate colliding
  | .duplicateBindingName colliding =>
    "Content types share a binding name: " ++ ", ".intercalate colliding
  | .duplicateProperty typeAlias colliding =>
    "Duplicate property on content type " ++ Text.quote typeAlias ++ ": "
      ++ ", ".intercalate colliding
  | .unresolvedPropertyType typeAlias propertyAlias reason =>
    "Cannot resolve runtime type of property " ++ Text.quote propertyAlias ++ " on content type "
      ++ Text.quote typeAlias ++ ": " ++ reason
  | .unsupportedItemKind aliasName kind =>
    "Unsupported item kind " ++ kind ++ " for content type " ++ Text.quote aliasName
  | .unknownComposition typeAlias compositionId =>
    "Content type " ++ Text.quote typeAlias ++ " is composed of unknown content type id "
      ++ Text.signedDecimal compositionId
  | .store text => "Schema store error: " ++ text

end LiveModels
