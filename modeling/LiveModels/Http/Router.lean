import LiveModels.Http.Cors
import LiveModels.Http.Route
import LiveModels.Json.Decoding
import LiveModels.Reload.Watcher

/-!
# Answers of the service

The answer to each request, and what it does to the service. Models are built when an answer needs
them.
-/

namespace LiveModels

/-- A report as JSON. -/
def StatusReport.toJson (r : StatusReport) : Json :=
  .object [
    ("state", .string r.state.label),
    ("version", Json.ofOption (fun v => Json.int v.toNat) r.version),
    ("fingerprint", Json.ofOption .string r.fingerprint),
    ("createdAt", Json.ofOption .string r.createdAt),
    ("aliases", .array (r.aliases.map .string)),
    ("outOfDate", .bool r.outOfDate),
    ("lastError", Json.ofOption .string r.lastError)]

namespace Http

open Json (Fault)

/-- The version of the service. -/
def serviceVersion : String := "2.0.0"

/-! ### Bodies -/

/-- A request to bind a bag of values. -/
structure BindRequest where
  contentTypeAlias : String
  values : Values
  deriving Repr, Inhabited

namespace BindRequest

/-- The deepest nesting of a body. -/
def maxDepth : Nat := 127

/-- The values that a tree denotes. They stand inside of the body, so they nest less deep. -/
def valuesOfJson (j : Json) : Except Fault Values := do
  let members ← j.asMembers
  members.mapM fun m => do return (m.1, ← m.2.asValue (maxDepth - 2))

/-- The fields of a request that have been read. -/
structure Fields where
  contentTypeAlias : Option String := none
  values : Option Values := none

/-- Reads one member of a request. -/
def Fields.read (f : Fields) (member : String × Json) : Except Fault Fields :=
  let (key, j) := member
  if key = "contentTypeAlias" then do
    return { f with contentTypeAlias := ← Json.fill f.contentTypeAlias j.asText }
  else if key = "values" then do
    return { f with values := ← Json.fill f.values (valuesOfJson j) }
  else do
    j.skip
    return f

/-- The request that a tree denotes; the values may be left out. -/
def ofJson (j : Json) : Except Fault BindRequest := do
  let members ← j.asRecord ["contentTypeAlias", "values"]
  let f ← members.foldlM Fields.read {}
  return { contentTypeAlias := ← Json.required f.contentTypeAlias, values := f.values.getD [] }

end BindRequest

/-- The most octets of a body. -/
def mostBodyOctets : Nat := 2097152

/-- The request to bind that a body makes, or the status of the refusal: the body must be declared
as JSON, not be too large, be JSON, and have the right shape. -/
def readBind (r : Request) : Except Nat BindRequest :=
  if !(r.mediaType?.map MediaType.isJson).getD false then .error 415
  else if mostBodyOctets < r.body.utf8ByteSize then .error 413
  else
    match Json.decode BindRequest.ofJson r.body with
    | .ok b => .ok b
    | .error .syntactic => .error 400
    | .error .shape => .error 422

/-! ### Answers -/

/-- A response with a JSON object. -/
def ok (members : List (String × Json)) : Response :=
  { status := 200, body := some (.object members) }

/-- The members of an object that are only written if there is a value. -/
def optional (key : String) (value : Option String) : List (String × Json) :=
  (value.map fun v => (key, Json.string v)).toList

/-- Says that the service runs. -/
def health (s : Service) : Response :=
  ok [
    ("success", .bool true),
    ("message", .string "Server is running fine."),
    ("modelsVersion",
      Json.ofOption (fun g => Json.int g.version.toNat) s.coordinator.current),
    ("timestamp", .string s.now),
    ("version", .string serviceVersion)]

/-- Rebuilds the models. -/
def rebuild (s : Service) : Service × Response :=
  let (s, g) := s.invalidate.ensureReady
  let error := s.lastError?
  let version := Text.decimal g.version.toNat
  let message :=
    match error with
    | none => "Models version " ++ version ++ " is ready"
    | some _ => "Rebuild failed, serving models version " ++ version
  (s, ok ([
      ("success", .bool error.isNone),
      ("message", .string message),
      ("version", Json.int g.version.toNat)]
    ++ optional "fingerprint" g.fingerprint
    ++ [("models", Json.int g.registry.size)]
    ++ optional "error" error))

/-- Takes notice of a change of the schema. -/
def notify (s : Service) : Service × Response :=
  (s.invalidate, ok [("success", .bool true), ("message", .string "Models invalidated")])

/-- Tells about the model for an alias. -/
def model (s : Service) (aliasName : String) : Service × Response :=
  let (s, g) := s.ensureReady
  let entry := g.registry.get? aliasName
  (s, ok ([
      ("success", .bool true),
      ("alias", .string aliasName),
      ("registered", .bool entry.isSome)]
    ++ optional "typeName" (entry.map (·.typeName))
    ++ [("runtimeType", .string (g.registry.mapType (.model aliasName)).text),
      ("version", Json.int g.version.toNat)]))

/-- Binds a bag of values with a new key. -/
def bind (s : Service) (key : String) (b : BindRequest) : Service × Response :=
  if (Text.trimmed b.contentTypeAlias).isEmpty then
    (s, (RequestError.badRequest "contentTypeAlias is required").response)
  else
    let (s, g) := s.ensureReady
    let element := g.registry.createModel (.bag key b.contentTypeAlias b.values)
    (s, ok [
      ("success", .bool true),
      ("key", .string element.key),
      ("contentTypeAlias", .string b.contentTypeAlias),
      ("modelType", Json.ofOption .string element.modelType?)])

/-- Answers a request on a route that allows its method. -/
def answerRoute (s : Service) (key : String) (r : Request) : Route → Service × Response
  | .health => (s, health s)
  | .status =>
    (s, ok [("success", .bool true), ("status", s.status.toJson)])
  | .rebuild => rebuild s
  | .notifySchema | .notifyDataType => notify s
  | .bind =>
    match readBind r with
    | .ok b => bind s key b
    | .error status => (s, { status := status })
  | .model segment =>
    match Route.alias? segment with
    | some aliasName => model s aliasName
    | none => (s, { status := 400 })

/-- Answers a request apart from the rules for origins; `key` is a new key for an element. -/
def answer (s : Service) (key : String) (r : Request) : Service × Response :=
  match Route.ofPath? (Route.pathOf r.uri) with
  | none => (s, { status := 404 })
  | some route =>
    if route.allows r.method then
      let (s, response) := answerRoute s key r route
      (s, if r.method = "HEAD" then { response with body := none } else response)
    else (s, { status := 405 })

/-- Answers a request. Every `OPTIONS` request asks for the rules for origins. -/
def handle (origins : OriginPolicy) (s : Service) (key : String) (r : Request) :
    Service × Response :=
  if r.method = "OPTIONS" then (s, { status := 200, headers := origins.preflightHeaders r })
  else
    let (s, response) := answer s key r
    (s, { response with headers := origins.responseHeaders r }.encodedFor r)

end Http

end LiveModels
