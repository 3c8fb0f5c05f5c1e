import LiveModels.Http.Message
import LiveModels.Text.Affix
import LiveModels.Text.Lines
import LiveModels.Text.Number

/-!
# Routes

The paths under which the service can be asked. A fixed path wins over the one that takes an alias;
the alias is one segment of the path, percent-encoded.
-/

namespace LiveModels.Http

/-- What a path stands for. -/
inductive Route
  | health
  | status
  | rebuild
  | notifySchema
  | notifyDataType
  | bind
  /-- The model for an alias, given as it stands in the path. -/
  | model (segment : List Char)
  deriving DecidableEq, Repr

namespace Route

/-- The octets that a percent-encoded text stands for; what is no encoding stands for itself. -/
def percentDecode : List Char → List UInt8
  | '%' :: a :: b :: rest =>
    match Text.hexValue? a, Text.hexValue? b with
    | some high, some low => UInt8.ofNat (high * 16 + low) :: percentDecode rest
    | _, _ => 0x25 :: percentDecode (a :: b :: rest)
  | c :: rest => (String.singleton c).toUTF8.toList ++ percentDecode rest
  | [] => []

/-- The alias that a segment stands for, if its octets are a text. -/
def alias? (segment : List Char) : Option String :=
  String.fromUTF8? (percentDecode segment).toByteArray

/-- What follows the host of a URI that names one. Such a URI begins with a scheme. -/
def afterHost? (uri : List Char) : Option (List Char) :=
  match uri.dropWhile fun c => c.isAlphanum || "+-.".toList.contains c with
  | ':' :: '/' :: '/' :: rest => some (rest.dropWhile fun c => !"/?#".toList.contains c)
  | _ => none

/-- The path of a URI: the part before the query and the fragment, without scheme and host. -/
def pathOf (uri : String) : List Char :=
  ((afterHost? uri.toList).getD uri.toList).takeWhile fun c => c ≠ '?' ∧ c ≠ '#'

/-- What a path stands for, if the service knows it. -/
def ofPath? (path : List Char) : Option Route :=
  if path = "/health".toList then some .health
  else match Text.afterWord? "/api/models/".toList path with
    | none => none
    | some rest =>
      if rest = "status".toList then some .status
      else if rest = "rebuild".toList then some .rebuild
      else if rest = "notify/schema".toList then some .notifySchema
      else if rest = "notify/data-type".toList then some .notifyDataType
      else if rest = "bind".toList then some .bind
      else if rest.isEmpty ∨ rest.contains '/' then none
      else some (.model rest)

/-- Whether a method may be used on a route. -/
def allows (r : Route) (method : String) : Bool :=
  match r with
  | .health | .status | .model _ => method == "GET" || method == "HEAD"
  | .rebuild | .notifySchema | .notifyDataType | .bind => method == "POST"

end Route

end LiveModels.Http
