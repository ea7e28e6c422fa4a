import RunWatch.Net.Url
import RunWatch.Table
import RunWatch.Wire.Document

/-!
# Artifacts

An output may name an artifact that the runtime keeps. `ArtifactClient.retrieve` asks the runtime
for it, and asks again while the runtime cannot be reached or fails by itself. Such a call is made
again as long as its fault is worth another try and tries are left (`retry`).

What the runtime would answer to each request is a function of the number of the request, so that a
retrieval is a function too. A source of artifacts is anything that answers for an identifier
(`ArtifactSource`).
-/

namespace RunWatch

open Wire

/-- Something that a node of a run has stored. -/
structure Artifact where
  id : String
  payload : Json
  deriving DecidableEq

/-- Why an artifact cannot be retrieved. -/
inductive ArtifactFault where
  | notConfigured
  | invalidUrl (reason : String)
  | request (reason : String)
  | status (code : Nat)
  | invalidResponse (reason : String)
  deriving DecidableEq

namespace ArtifactFault

/-- The fault in words. -/
def message : ArtifactFault → String
  | notConfigured => "artifact source not configured"
  | invalidUrl reason => "invalid artifact url: " ++ reason
  | request reason => "request failed: " ++ reason
  | status code => "unexpected status " ++ String.ofList (Text.digitsOf code)
  | invalidResponse reason => "invalid response: " ++ reason

/-- Whether another request may do better. -/
def isRetryable : ArtifactFault → Bool
  | request _ => true
  | status code => decide (500 ≤ code)
  | notConfigured | invalidUrl _ | invalidResponse _ => false

end ArtifactFault

/-- Where artifacts come from: the artifact with an identifier, or none, or a fault. -/
abbrev ArtifactSource := String → Except ArtifactFault (Option Artifact)

namespace ArtifactSource

/-- No source. -/
def missing : ArtifactSource := fun _ => .error .notConfigured

/-- A source that always fails. -/
def failing (fault : ArtifactFault) : ArtifactSource := fun _ => .error fault

/-- A source with given payloads. -/
def ofTable (payloads : Table String Json) : ArtifactSource := fun id =>
  .ok ((payloads.get? id).map fun payload => ⟨id, payload⟩)

end ArtifactSource

namespace Artifact

/-- The fields of an artifact. -/
def fields : List Field := [.needed "artifact_id" .text, .defaulted "payload" .anything]

/-- Reads an artifact from the body of an answer. -/
def parse (body : String) : Except DocumentFault Artifact := do
  let ms ← Document.record fields body
  return ⟨Members.text ms "artifact_id", (Json.member? "payload" ms).getD .null⟩

/-- An artifact as JSON. -/
def toJson (a : Artifact) : Json :=
  .ofMembers [("artifact_id", .string a.id), ("payload", a.payload)]

end Artifact

/-! ### Calls that are made again -/

section

variable {ε α : Type}

/-- The outcome of a sequence of calls from number `n` on, with at most `left` more calls after a
failure, and the number of the last call made. -/
def retryFrom (isRetryable : ε → Bool) (call : Nat → Except ε α) :
    (left n : Nat) → Except ε α × Nat
  | 0, n => (call n, n)
  | left + 1, n =>
    match call n with
    | .ok a => (.ok a, n)
    | .error e => if isRetryable e then retryFrom isRetryable call left (n + 1) else (.error e, n)

/-- What came of a call that was made again when it failed. -/
structure Retried (ε α : Type) where
  outcome : Except ε α
  /-- The number of calls made. -/
  calls : Nat

/-- Makes a call, and makes it again at most `most` times. -/
def retry (most : Nat) (isRetryable : ε → Bool) (call : Nat → Except ε α) : Retried ε α :=
  let (outcome, last) := retryFrom isRetryable call most 0
  ⟨outcome, last + 1⟩

end

/-! ### The runtime -/

/-- What comes of one request to the runtime. -/
inductive RuntimeReply where
  /-- The runtime was not reached. -/
  | unreachable (reason : String)
  | answer (status : Nat) (body : String)

/-- What a reply says of an artifact. -/
def RuntimeReply.outcome : RuntimeReply → Except ArtifactFault (Option Artifact)
  | unreachable reason => .error (.request reason)
  | answer status body =>
    if status = 404 then .ok none
    else if 200 ≤ status ∧ status < 300 then
      match Artifact.parse body with
      | .ok a => .ok (some a)
      | .error _ => .error (.invalidResponse "error decoding response body")
    else .error (.status status)

/-- A fault of a URL in words, with the text that is none. -/
def UrlFault.describe (base : String) : UrlFault → String
  | noScheme => base ++ ": relative URL without a base"
  | authority (.host fault) => base ++ ": " ++ fault.message
  | authority .endpoint => base ++ ": invalid port number"
  | noPath => base ++ " cannot be a base"

/-- The address of a runtime, and how often a request to it is repeated. -/
structure ArtifactClient where
  base : String
  retries : Nat
  deriving DecidableEq

namespace ArtifactClient

/-- The client of a runtime; slashes at the end of its address do not count. -/
def new (base : String) (retries : Nat) : ArtifactClient := ⟨Text.trimEndSlashes base, retries⟩

/-- The URL of an artifact: its identifier is one segment of the path. -/
def urlFor (c : ArtifactClient) (id : String) : Except ArtifactFault Url :=
  match Url.parse c.base with
  | .error fault => .error (.invalidUrl (fault.describe c.base))
  | .ok u =>
    let path := Path.push u.kind (Path.withoutEmptyEnd u.path) "artifacts"
    .ok { u with path := Path.push u.kind path id }

/-- Retrieves an artifact, with the replies to the requests for a URL, and counts the requests. -/
def retrieve (c : ArtifactClient) (replies : Url → Nat → RuntimeReply) (id : String) :
    Retried ArtifactFault (Option Artifact) :=
  match c.urlFor id with
  | .error fault => ⟨.error fault, 0⟩
  | .ok u => retry c.retries ArtifactFault.isRetryable fun n => (replies u n).outcome

/-- The source of the artifacts of a runtime. -/
def source (c : ArtifactClient) (replies : Url → Nat → RuntimeReply) : ArtifactSource :=
  fun id => (c.retrieve replies id).outcome

end ArtifactClient

end RunWatch
