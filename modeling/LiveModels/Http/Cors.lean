import LiveModels.Http.Message

/-!
# Cross-origin requests

Which origins may use the service from a browser. Without any valid origin in the settings every
origin may; otherwise a listed origin is echoed, and no other gets a header.
-/

namespace LiveModels.Http

/-- The origins that are allowed. -/
inductive OriginPolicy
  | any
  | listed (origins : List String)
  deriving DecidableEq, Repr

namespace OriginPolicy

/-- Whether a text can be the value of a header: it has no control character but the tab. -/
def isHeaderValue (s : String) : Bool :=
  s.toList.all fun c => (decide (32 ≤ c.toNat) && c.toNat != 127) || c == '\t'

/-- The policy for the origins of the settings. There is none for a list with a wildcard. -/
def ofOrigins (origins : List String) : Option OriginPolicy :=
  match origins.filter isHeaderValue with
  | [] => some .any
  | valid => if valid.contains "*" then none else some (.listed valid)

/-- The value of the header that allows the origin of a request. -/
def allowed? (p : OriginPolicy) (origin : Option String) : Option String :=
  match p with
  | .any => some "*"
  | .listed origins => origin.filter origins.contains

/-- The headers of every response. -/
def responseHeaders (p : OriginPolicy) (r : Request) : List (String × String) :=
  ((p.allowed? (r.header? "origin")).map fun o => ("access-control-allow-origin", o)).toList

/-- The headers of the response to a preflight request. -/
def preflightHeaders (p : OriginPolicy) (r : Request) : List (String × String) :=
  p.responseHeaders r ++ [
    ("access-control-allow-methods", "GET,POST,OPTIONS"),
    ("access-control-allow-headers", "content-type,accept"),
    ("access-control-max-age", "3600")]

end OriginPolicy

end LiveModels.Http
