import RunWatch.Service.Command
import RunWatch.Service.MediaType
import RunWatch.Text.Split
import RunWatch.Wire.Config

/-!
# Requests

A request of HTTP and the command that it stands for. A request is refused for the first of these
reasons that holds: no route has its path, the route has other methods, an identifier in the path is
no text, the body is not declared as JSON, is not JSON, or is not of the right shape.

The segments of a path are taken apart first and decoded then. An identifier may be empty inside a
path, but not at its end.

The length of a body is not limited here. The server library takes bodies of at most 2 MB unless it
is told otherwise, and answers a longer one with status 413 where a command reads the body; that
answer is not modelled, and like every refusal it leaves the service as it was.
-/

namespace RunWatch

open Wire

/-- A request. -/
structure Request where
  method : String
  /-- The path, after a scheme and an authority if any, and before a query; only the path counts. -/
  target : String
  contentType : Option String
  body : String
  deriving DecidableEq

/-- Why a request is no command. -/
inductive Refusal where
  | unknownPath
  | wrongMethod
  | undecodablePath
  | unsupportedType
  | document (fault : DocumentFault)
  deriving DecidableEq

/-- The status of a refusal. There is none for a body beyond the length that the server library takes
(413): bodies have any length here. -/
def Refusal.status : Refusal → Nat
  | unknownPath => 404
  | wrongMethod => 405
  | undecodablePath => 400
  | unsupportedType => 415
  | document .malformed => 400
  | document .misshapen => 422

/-! ### Routes -/

/-- What a request about a session is about. -/
inductive Part where
  | whole
  | watch
  | events
  | view
  | stream
  | select
  | expand
  | connection
  | control
  | outbox
  | preview (stepId : String)
  deriving DecidableEq

/-- The part with a name. -/
def Part.ofName? : String → Option Part
  | "watch" => some watch
  | "events" => some events
  | "view" => some view
  | "stream" => some stream
  | "select" => some select
  | "expand" => some expand
  | "connection" => some connection
  | "control" => some control
  | "outbox" => some outbox
  | _ => none

/-- The methods of a part. -/
def Part.methods : Part → List String
  | view | stream | outbox | preview _ => ["GET"]
  | whole => ["GET", "DELETE"]
  | watch | events | select | expand | connection | control => ["POST"]

/-- What a request is about. -/
inductive Route where
  | health
  | sessions
  | session (id : String) (part : Part)
  deriving DecidableEq

namespace Route

/-- The route of the segments of a path. -/
def ofSegments? : List String → Option Route
  | ["", "health"] => some .health
  | ["", "api", "sessions"] => some .sessions
  | ["", "api", "sessions", id] => if id = "" then none else some (.session id .whole)
  | ["", "api", "sessions", id, name] => (Part.ofName? name).map (.session id)
  | ["", "api", "sessions", id, "steps", stepId, "preview"] => some (.session id (.preview stepId))
  | _ => none

/-- What follows the scheme at the front of a target. -/
def afterScheme? (cs : List Char) : Option (List Char) :=
  match cs.dropWhile fun c => c.isAlphanum || c == '+' || c == '-' || c == '.' with
  | ':' :: '/' :: '/' :: rest => some rest
  | _ => none

/-- The path of a target. A target with a scheme has an authority, and the path `/` if no other;
without a scheme and a slash in front there is no path. -/
def path (target : List Char) : List Char :=
  let beforeQuery (cs : List Char) : List Char := cs.takeWhile fun c => c != '?' && c != '#'
  if target.head? = some '/' then beforeQuery target
  else match afterScheme? target with
    | none => []
    | some rest =>
      match (beforeQuery rest).dropWhile (· != '/') with
      | [] => ['/']
      | p => p

/-- The segments of a target. -/
def segments (target : String) : List String :=
  (Text.splitOn (· == '/') (path target.toList)).map String.ofList

/-- The route with its identifiers decoded. -/
def decode? : Route → Option Route
  | health => some health
  | sessions => some sessions
  | session id (.preview stepId) => do
    let id ← Text.Percent.decode? id
    let stepId ← Text.Percent.decode? stepId
    return session id (.preview stepId)
  | session id part => (Text.Percent.decode? id).map (session · part)

/-- The methods of a route. -/
def methods : Route → List String
  | health => ["GET"]
  | sessions => ["GET", "POST"]
  | session _ part => part.methods

end Route

/-! ### Bodies -/

namespace Request

/-- The target of a session. -/
def targetField : Field := .needed "target" .text

/-- The identifier of a step. -/
def stepField : Field := .needed "step_id" .text

/-- The fields of a request for a session. -/
def createFields : List Field :=
  [targetField, .optional "node_kinds" .textTable, .optional "graph" .anything]

/-- Reads the body of a request as a document. -/
def readBody {α : Type} (r : Request) (read : String → Except DocumentFault α) : Except Refusal α :=
  if ((r.contentType.bind MediaType.parse?).any MediaType.isJson) then
    (read r.body).mapError .document
  else .error .unsupportedType

/-- Reads the body of a request as a record. -/
def readRecord (r : Request) (fields : List Field) : Except Refusal Members :=
  r.readBody (Document.record fields)

/-- The command about a session with a method that its part has. -/
def sessionCommand (r : Request) (id : String) : Part → Except Refusal Command
  | .whole => .ok (if r.method = "DELETE" then .delete id else .view id)
  | .view => .ok (.view id)
  | .stream => .ok (.stream id)
  | .outbox => .ok (.outbox id)
  | .preview stepId => .ok (.preview id stepId)
  | .watch => do
    let ms ← r.readRecord [targetField]
    return .watch id (ms.text "target")
  | .events => do
    let ms ← r.readRecord [.defaulted "events" .anythings]
    return .ingest id (ms.items "events")
  | .select => do
    let ms ← r.readRecord [stepField]
    return .select id (ms.text "step_id")
  | .expand => do
    let ms ← r.readRecord [stepField, .optional "expanded" .flag]
    return .expand id (ms.text "step_id") ((ms.value? "expanded").bind Json.toBool?)
  | .connection => do
    let ms ← r.readRecord [.needed "connected" .flag, .optional "error" .text]
    return .connect id (ms.flag "connected") (ms.text? "error")
  | .control => do
    let message ← r.readBody Document.message
    return .control id message

/-- The command about a route with a method that it has. -/
def routeCommand (r : Request) : Route → Except Refusal Command
  | .health => .ok .health
  | .sessions =>
    if r.method = "POST" then do
      let ms ← r.readRecord createFields
      return .create (ms.text "target") ((ms.value? "node_kinds").map Catalog.ofJson)
        (ms.value? "graph")
    else .ok .list
  | .session id part => r.sessionCommand id part

/-- Whether only the head of an answer is asked for. -/
def isHead (r : Request) : Bool := r.method == "HEAD"

/-- Whether a request only asks what it may ask, which is always answered. -/
def isPreflight (r : Request) : Bool := r.method == "OPTIONS"

/-- The request with the whole answer asked for. -/
def whole (r : Request) : Request := if r.isHead then { r with method := "GET" } else r

/-- The command that a request stands for, however long its body is. -/
def command (r : Request) : Except Refusal Command :=
  match Route.ofSegments? (Route.segments r.target) with
  | none => .error .unknownPath
  | some route =>
    if route.methods.contains r.method then
      match route.decode? with
      | some route => r.routeCommand route
      | none => .error .undecodablePath
    else .error .wrongMethod

end Request

end RunWatch
