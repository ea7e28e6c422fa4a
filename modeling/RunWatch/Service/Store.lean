import RunWatch.Service.Fault

/-!
# The store of sessions

The store keeps the sessions with the messages that wait for the runtime, in order of creation, and
the subscriptions to their views.

A change to a session that succeeds is published: every open subscription to the session gets the
view as it is then (`Store.update`). A subscription starts with the view at that time, which stays
until it is read, and keeps a bounded number of later ones; beyond that the oldest are lost. It ends
when its session goes, after what is left was read.
-/

namespace RunWatch

/-- What a client renders. -/
structure Snapshot where
  view : RunView
  selected : Option String
  expanded : List String
  connection : Connection
  generation : Nat

/-- What a client renders of a session. -/
def WatchSession.snapshot (s : WatchSession) : Snapshot :=
  ⟨s.view, s.selected, s.expandedIds, s.connection, s.generation⟩

/-- A session with the messages that wait for the runtime. -/
structure Slot where
  session : WatchSession
  outbox : List ControlMessage

/-- What a client renders of a slot. -/
def Slot.snapshot (s : Slot) : Snapshot := s.session.snapshot

/-- What a list of sessions tells of one of them. -/
structure SessionSummary where
  sessionId : String
  target : Option String
  rootRunId : Option String
  status : ViewStatus
  eventCount : Nat
  pendingMessages : Nat
  deriving DecidableEq

/-- The summary of a slot. -/
def Slot.summary (sessionId : String) (s : Slot) : SessionSummary where
  sessionId
  target := s.session.target
  rootRunId := s.session.view.rootRunId
  status := s.session.view.status
  eventCount := s.session.view.eventCount
  pendingMessages := s.outbox.length

/-! ### Subscriptions -/

/-- A subscription to the view of a session. -/
structure Subscription where
  sessionId : String
  /-- The view at the start, until it is read. -/
  initial : Option Snapshot
  /-- The later views that were not read. -/
  unread : List Snapshot
  isOpen : Bool

namespace Subscription

/-- The most later views that are kept. -/
def capacity : Nat := 64

/-- A subscription that starts with a view. -/
def start (sessionId : String) (s : Snapshot) : Subscription := ⟨sessionId, some s, [], true⟩

/-- Takes one more view; the oldest one is lost when there is no room. -/
def deliver (x : Subscription) (s : Snapshot) : Subscription :=
  let all := x.unread ++ [s]
  { x with unread := all.drop (all.length - capacity) }

/-- The views to read, and the subscription without them. -/
def take (x : Subscription) : List Snapshot × Subscription :=
  (x.initial.toList ++ x.unread, { x with initial := none, unread := [] })

/-- Closes a subscription to a session. -/
def close (sessionId : String) (x : Subscription) : Subscription :=
  if x.sessionId = sessionId then { x with isOpen := false } else x

/-- Gives a subscription up, with all that was not read. -/
def cancel (x : Subscription) : Subscription :=
  { x with initial := none, unread := [], isOpen := false }

/-- Publishes a view of a session to a subscription. -/
def publish (sessionId : String) (s : Snapshot) (x : Subscription) : Subscription :=
  if x.sessionId = sessionId ∧ x.isOpen = true then x.deliver s else x

end Subscription

/-! ### The store -/

/-- The sessions by identifier, and all subscriptions in order. -/
structure Store where
  slots : Table String Slot
  subscriptions : List Subscription

namespace Store

/-- A store without sessions. -/
def empty : Store := ⟨.empty, []⟩

instance : Inhabited Store := ⟨empty⟩

/-- The slot of a session. -/
def slot? (s : Store) (id : String) : Option Slot := s.slots.get? id

/-- Puts a new slot last; one with the same identifier goes. -/
def add (s : Store) (id : String) (slot : Slot) : Store where
  slots := (s.slots.erase id).insert id slot
  subscriptions := s.subscriptions.map (Subscription.close id)

/-- Creates a session that watches a target. -/
def create (s : Store) (id target : String) (catalog : Catalog) (config : LedgerConfig) : Store :=
  s.add id ⟨(WatchSession.new catalog config).watch target, []⟩

/-- Deletes a session. -/
def delete (s : Store) (id : String) : Store where
  slots := s.slots.erase id
  subscriptions := s.subscriptions.map (Subscription.close id)

/-- The sessions in order of creation. -/
def summaries (s : Store) : List SessionSummary := s.slots.entries.map fun e => e.2.summary e.1

/-- Puts the slot of a session in place of the old one. -/
def put (s : Store) (id : String) (slot : Slot) : Store :=
  { s with slots := s.slots.insert id slot }

/-- Publishes a view of a session. -/
def publish (s : Store) (id : String) (view : Snapshot) : Store :=
  { s with subscriptions := s.subscriptions.map (Subscription.publish id view) }

/-- The slot of a session, or the fault that there is none. -/
def find (s : Store) (id : String) : Except ServiceFault Slot :=
  match s.slot? id with
  | some slot => .ok slot
  | none => .error (.sessionNotFound id)

/-- Changes a session, and publishes its view if the change succeeds. What a change has done before
it fails is not undone. -/
def update {α : Type} (s : Store) (id : String) (change : Slot → Except ServiceFault α × Slot) :
    Except ServiceFault (α × Snapshot) × Store :=
  match s.find id with
  | .error fault => (.error fault, s)
  | .ok slot =>
    match change slot with
    | (.error fault, slot) => (.error fault, s.put id slot)
    | (.ok a, slot) => (.ok (a, slot.snapshot), (s.put id slot).publish id slot.snapshot)

/-- Subscribes to a session, and gives the place of the subscription. -/
def subscribe (s : Store) (id : String) : Except ServiceFault Nat × Store :=
  match s.find id with
  | .error fault => (.error fault, s)
  | .ok slot =>
    (.ok s.subscriptions.length,
      { s with subscriptions := s.subscriptions ++ [.start id slot.snapshot] })

/-- Gives up the subscription at a place. -/
def cancel (s : Store) (place : Nat) : Store :=
  { s with subscriptions := s.subscriptions.modify place Subscription.cancel }

/-- Reads a subscription: the views, and whether more may come. -/
def read (s : Store) (place : Nat) : Option (List Snapshot × Bool) × Store :=
  match s.subscriptions[place]? with
  | none => (none, s)
  | some x =>
    let (views, x') := x.take
    (some (views, x.isOpen), { s with subscriptions := s.subscriptions.set place x' })

end Store

end RunWatch
