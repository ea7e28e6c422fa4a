import RunWatch.Service.Command
import RunWatch.Wire.View

/-!
# Answers of the service as JSON
-/

namespace RunWatch

open Wire

/-- What a client renders, as JSON. -/
def Snapshot.toJson (s : Snapshot) : Json :=
  .ofMembers
    [("view", s.view.toJson), ("selected", orNull s.selected),
      ("expanded", .array (s.expanded.map .string)), ("connection", s.connection.toJson),
      ("generation", .ofNat s.generation)]

/-- The summary of a session as JSON. -/
def SessionSummary.toJson (s : SessionSummary) : Json :=
  .ofMembers
    [("session_id", .string s.sessionId), ("target", orNull s.target),
      ("root_run_id", orNull s.rootRunId), ("status", .string s.status.name),
      ("event_count", .ofNat s.eventCount), ("pending_messages", .ofNat s.pendingMessages)]

/-- Messages as JSON. -/
def messagesToJson (ms : List ControlMessage) : Json := .array (ms.map ControlMessage.toJson)

/-- What is sent back for a request. -/
inductive Response where
  | json (status : Nat) (body : Json)
  | text (status : Nat) (body : String)
  /-- The views of a subscription, by its place, as they come. -/
  | views (place : Nat)

/-- An answer as it is sent. -/
def Answer.toResponse : Answer → Response
  | healthy => .text 200 "ok"
  | created id => .json 201 (.ofMembers [("session_id", .string id)])
  | sessions summaries => .json 200 (.array (summaries.map SessionSummary.toJson))
  | deleted => .text 204 ""
  | shown snapshot => .json 200 snapshot.toJson
  | ingested totals skipped =>
    .json 200 (.ofMembers
      [("accepted", .ofNat totals.accepted), ("skipped", .ofNat skipped),
        ("rejected", .ofNat totals.rejected), ("resets", .ofNat totals.resets)])
  | expanded stepId b => .json 200 (.ofMembers [("step_id", .string stepId), ("expanded", .bool b)])
  | queued message pending =>
    .json 200 (.ofMembers [("queued", message.toJson), ("pending", .ofNat pending)])
  | drained messages => .json 200 (.ofMembers [("messages", messagesToJson messages)])
  | previewed stepId preview artifact =>
    .json 200 (.ofFields
      [("step_id", some (.string stepId)), ("preview", some (.ofOption Preview.toJson preview)),
        ("artifact", artifact.map Artifact.toJson)])
  | subscribed place => .views place

/-- A fault as it is sent. -/
def ServiceFault.toResponse (fault : ServiceFault) : Response := .json fault.status fault.toJson

end RunWatch
