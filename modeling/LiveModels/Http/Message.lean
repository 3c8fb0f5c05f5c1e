import LiveModels.Http.Coding
import LiveModels.Http.MediaType
import LiveModels.Json.Printer

/-!
# Requests and responses

What the service is asked over HTTP and what it answers. Bodies are JSON values; a response without
one has a body that is empty or plain text. Bodies that are worth it are compressed on request.
-/

namespace LiveModels.Http

/-- A request. Names of headers are in small letters. -/
structure Request where
  method : String
  uri : String
  headers : List (String × String) := []
  body : String := ""
  deriving DecidableEq, Repr, Inhabited

/-- The first value of a header. -/
def Request.header? (r : Request) (name : String) : Option String :=
  (r.headers.find? fun h => h.1 == name).map (·.2)

/-- The media type that a request declares for its body. -/
def Request.mediaType? (r : Request) : Option MediaType :=
  (r.header? "content-type").bind MediaType.parse?

/-- The coding that is taken for the response to a request. -/
def Request.coding (r : Request) : Coding :=
  .preferred ((r.headers.filter fun h => h.1 == "accept-encoding" && h.2.toList.all isVisible).map
    (·.2))

/-- A response. -/
structure Response where
  status : Nat
  headers : List (String × String) := []
  body : Option Json := none
  /-- The form in which the body is sent. -/
  coding : Coding := .identity
  deriving Repr, Inhabited

/-- The length from which a body is worth compressing, in octets. -/
def Response.leastCompressed : Nat := 32

/-- A response in the form that a request asks for. -/
def Response.encodedFor (response : Response) (r : Request) : Response :=
  match response.body with
  | some body =>
    if Response.leastCompressed ≤ body.compact.utf8ByteSize then
      { response with coding := r.coding }
    else response
  | none => response

/-- Why a request is not answered as wanted. -/
inductive RequestError
  | badRequest (text : String)
  | internal (text : String)
  deriving DecidableEq, Repr

namespace RequestError

/-- What is logged about an error. -/
def message : RequestError → String
  | .badRequest text => "Bad request: " ++ text
  | .internal text => "Internal error: " ++ text

/-- The response to a request with an error. Only the details of an internal error are kept apart
from the message. -/
def response : RequestError → Response
  | .badRequest text => {
      status := 400
      body := some (.object [
        ("success", .bool false), ("message", .string text), ("code", .string "BAD_REQUEST")]) }
  | .internal text => {
      status := 500
      body := some (.object [
        ("success", .bool false), ("message", .string "An internal error occurred"),
        ("error", .string text), ("code", .string "INTERNAL_ERROR")]) }

end RequestError

end LiveModels.Http
