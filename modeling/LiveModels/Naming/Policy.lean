import LiveModels.Naming.Identifier
import LiveModels.Text.Blank
import LiveModels.Text.Camel

/-!
# Binding names

The name under which a content type or a property appears in generated code is made from its alias
or from its display name.
-/

namespace LiveModels

/-- How binding names are made. -/
inductive NamingPolicy
  /-- From the alias as it stands. -/
  | rawAlias
  /-- From the alias in upper camel case. -/
  | pascalAlias
  /-- From the display name in upper camel case, or from the alias if the display name has no
  words. -/
  | pascalName
  deriving DecidableEq, Repr, Inhabited

namespace NamingPolicy

/-- The text from which the binding name is made. -/
def base : NamingPolicy → (aliasName displayName : String) → String
  | .rawAlias, aliasName, _ => aliasName
  | .pascalAlias, aliasName, _ => Text.upperCamel aliasName
  | .pascalName, aliasName, displayName =>
    let name := Text.upperCamel displayName
    if name.isEmpty then Text.upperCamel aliasName else name

/-- The binding name of a content type or property. -/
def bindingName (policy : NamingPolicy) (aliasName displayName : String) : String :=
  Identifier.sanitize (policy.base aliasName displayName)

/-- The name of a policy. -/
def label : NamingPolicy → String
  | .rawAlias => "raw-alias"
  | .pascalAlias => "pascal-alias"
  | .pascalName => "pascal-name"

/-- What is reported about a text that names no policy. -/
def unknownMessage (text : String) : String :=
  "unknown binding name policy '" ++ text
    ++ "' (expected raw-alias, pascal-alias or pascal-name)"

/-- The policy that a text names, without regard to ASCII letter case and to white space around it;
otherwise what is reported. -/
def ofText (s : String) : Except String NamingPolicy :=
  let text := Text.lowerAscii (Text.trimmed s)
  if text = "raw-alias" ∨ text = "raw" then .ok .rawAlias
  else if text = "pascal-alias" then .ok .pascalAlias
  else if text = "pascal-name" then .ok .pascalName
  else .error (unknownMessage text)

end NamingPolicy

end LiveModels
