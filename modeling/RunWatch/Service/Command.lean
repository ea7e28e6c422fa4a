import RunWatch.Service.Settings
import RunWatch.Service.Store

/-!
# Commands to the service

What a client may ask of the service, once it is understood, and what the service does then:
`Service.run` gives the answer or a fault, and the service after it.
-/

namespace RunWatch

/-- What a client asks for. Most commands name a session. -/
inductive Command where
  | health
  | create (target : String) (kinds : Option Catalog) (graph : Option Json)
  | list
  | view (id : String)
  | delete (id : String)
  | watch (id target : String)
  | ingest (id : String) (values : List Json)
  | select (id stepId : String)
  /-- Expands or collapses a row, or turns it over. -/
  | expand (id stepId : String) (expanded : Option Bool)
  | connect (id : String) (connected : Bool) (error : Option String)
  | control (id : String) (message : ControlMessage)
  | outbox (id : String)
  | stream (id : String)
  | preview (id stepId : String)

/-- What the service answers. -/
inductive Answer where
  | healthy
  | created (sessionId : String)
  | sessions (summaries : List SessionSummary)
  | deleted
  | shown (snapshot : Snapshot)
  | ingested (totals : IngestTotals) (skipped : Nat)
  | expanded (stepId : String) (expanded : Bool)
  | queued (message : ControlMessage) (pending : Nat)
  | drained (messages : List ControlMessage)
  | previewed (stepId : String) (preview : Option Preview) (artifact : Option Artifact)
  /-- A subscription, by its place. -/
  | subscribed (place : Nat)

/-! ### Changes of one session

A change gives its answer or a fault, and in either case the slot after it.
-/

namespace Slot

/-- Watches another target; the messages that wait are dropped. -/
def watch (s : Slot) (target : String) : Except ServiceFault Unit × Slot :=
  (.ok (), ⟨s.session.watch target, []⟩)

/-- Takes a batch of events. -/
def ingest (s : Slot) (events : List Event) : Except ServiceFault IngestTotals × Slot :=
  let (totals, session) := s.session.ingestAll events
  (.ok totals, { s with session })

/-- Selects a step. -/
def select (s : Slot) (stepId : String) : Except ServiceFault Unit × Slot :=
  let (known, session) := s.session.select stepId
  (if known then .ok () else .error (.stepNotFound stepId), { s with session })

/-- Expands or collapses a row, or turns it over; gives its new state. -/
def expand (s : Slot) (stepId : String) : Option Bool → Except ServiceFault Bool × Slot
  | some expanded =>
    let (known, session) := s.session.setExpanded stepId expanded
    (if known then .ok expanded else .error (.stepNotFound stepId), { s with session })
  | none =>
    let (expanded, session) := s.session.toggleExpanded stepId
    (expanded.elim (.error (.stepNotFound stepId)) .ok, { s with session })

/-- Notes the state of the transport. -/
def connect (s : Slot) (connected : Bool) (error : Option String) :
    Except ServiceFault Unit × Slot :=
  (.ok (), { s with
    session := if connected then s.session.markConnected else s.session.markDisconnected error })

/-- The message to queue for a message, and the session then: a run resets the session, and an
action without a run acts on the root run. -/
def prepare (s : WatchSession) :
    ControlMessage → Except ServiceFault ControlMessage × WatchSession
  | .run input => (.ok (.run input), s.beginRun)
  | .resume response => (.ok (.resume response), s)
  | .control action runId =>
    if runId = "" then ((s.controlMessage action).mapError .session, s)
    else (.ok (.control action runId), s)

/-- Queues a message for the runtime; gives it with the number of messages that wait. -/
def enqueue (s : Slot) (message : ControlMessage) :
    Except ServiceFault (ControlMessage × Nat) × Slot :=
  match prepare s.session message with
  | (.error fault, session) => (.error fault, { s with session })
  | (.ok message, session) =>
    let outbox := s.outbox ++ [message]
    (.ok (message, outbox.length), ⟨session, outbox⟩)

end Slot

/-! ### The service -/

/-- The service: how ledgers are built, where artifacts come from, and the sessions. -/
structure Service where
  ledger : LedgerConfig
  artifacts : ArtifactSource
  store : Store

namespace Service

/-- A service with given settings and a source of artifacts. -/
def new (settings : Settings) (artifacts : ArtifactSource) : Service :=
  ⟨settings.ledger, artifacts, .empty⟩

/-- The source of artifacts that settings name. -/
def configuredSource (settings : Settings) (replies : Url → Nat → RuntimeReply) : ArtifactSource :=
  match settings.runtimeUrl with
  | some url => (ArtifactClient.new url settings.artifactRetries).source replies
  | none => .missing

/-- The catalog of a new session: the kinds of a graph, with given kinds put over them. -/
def catalogOf (kinds : Option Catalog) (graph : Option Json) : Catalog :=
  ((graph.map Catalog.ofGraph).getD .empty).overriddenBy (kinds.getD .empty)

/-- The artifact that a preview names; without a source there is none. -/
def artifactOf (source : ArtifactSource) (preview : Option Preview) :
    Except ServiceFault (Option Artifact) :=
  match preview.bind Preview.artifactId with
  | none => .ok none
  | some id =>
    match source id with
    | .ok a => .ok a
    | .error .notConfigured => .ok none
    | .error fault => .error (.artifact fault)

/-- The preview of a step, with its artifact. -/
def previewOf (s : Service) (id stepId : String) : Except ServiceFault Answer := do
  let slot ← s.store.find id
  if slot.session.view.contains stepId then
    let preview := slot.session.view.preview? stepId
    let artifact ← artifactOf s.artifacts preview
    return .previewed stepId preview artifact
  else .error (.stepNotFound stepId)

/-- Changes a session by a change that may fail. -/
def change {α : Type} (s : Service) (id : String) (f : Slot → Except ServiceFault α × Slot)
    (answer : α → Snapshot → Answer) : Except ServiceFault Answer × Service :=
  let (result, store) := s.store.update id f
  (result.map fun r => answer r.1 r.2, { s with store })

/-- Runs a command. `newId` is the identifier of a session that is created. -/
def run (s : Service) (newId : String) : Command → Except ServiceFault Answer × Service
  | .health => (.ok .healthy, s)
  | .create target kinds graph =>
    let target := Text.trim target
    if target = "" then (.error .emptyTarget, s)
    else
      (.ok (.created newId),
        { s with store := s.store.create newId target (catalogOf kinds graph) s.ledger })
  | .list => (.ok (.sessions s.store.summaries), s)
  | .view id => ((s.store.find id).map fun slot => .shown slot.snapshot, s)
  | .delete id =>
    match s.store.find id with
    | .ok _ => (.ok .deleted, { s with store := s.store.delete id })
    | .error fault => (.error fault, s)
  | .watch id target =>
    let target := Text.trim target
    if target = "" then (.error .emptyTarget, s)
    else s.change id (fun slot => slot.watch target) fun _ view => .shown view
  | .ingest id values =>
    let (events, skipped) := decodeEvents values
    s.change id (fun slot => slot.ingest events) fun totals _ => .ingested totals skipped
  | .select id stepId => s.change id (fun slot => slot.select stepId) fun _ view => .shown view
  | .expand id stepId expanded =>
    s.change id (fun slot => slot.expand stepId expanded) fun b _ => .expanded stepId b
  | .connect id connected error =>
    s.change id (fun slot => slot.connect connected error) fun _ view => .shown view
  | .control id message =>
    s.change id (fun slot => slot.enqueue message) fun r _ => .queued r.1 r.2
  | .outbox id =>
    match s.store.find id with
    | .ok slot =>
      (.ok (.drained slot.outbox), { s with store := s.store.put id { slot with outbox := [] } })
    | .error fault => (.error fault, s)
  | .stream id =>
    let (place, store) := s.store.subscribe id
    (place.map .subscribed, { s with store })
  | .preview id stepId => (s.previewOf id stepId, s)

end Service

end RunWatch
