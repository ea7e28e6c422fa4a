import RunWatch.Proofs.Session.Refusals
import RunWatch.Service.Handle

/-!
# Calls of a service

What happens to a service one thing after another: commands are run, subscriptions are read and
given up (`ServiceCall`). `Service.Ran` lists what a command can do. It is refused and leaves the
service as it was; it tells something; it makes or deletes a session; it changes the slot of one
session and publishes the view (`Slot.Serves`); it empties an outbox; or it subscribes.

* `Service.ran`: what a command does is in this list.
* `Service.Ran.slot?_eq`: a command does not touch the sessions that it does not name.
* `Service.exists_performAll_handle`: a request is made of such calls.
-/

namespace RunWatch

/-! ### Stores -/

namespace Subscription

variable {x : Subscription} {id : String}

theorem publish_of_ne (h : x.sessionId ≠ id) (view : Snapshot) : x.publish id view = x := by
  rw [publish, if_neg fun both => h both.1]

theorem close_of_ne (h : x.sessionId ≠ id) : x.close id = x := by rw [close, if_neg h]

end Subscription

namespace Store

variable (s : Store) (id : String) (slot : Slot) (id' : String)

theorem slot?_put : (s.put id slot).slot? id' = if id = id' then some slot else s.slot? id' :=
  Table.get?_insert ..

@[simp] theorem slot?_publish (view : Snapshot) : (s.publish id view).slot? id' = s.slot? id' := rfl

theorem slot?_delete : (s.delete id).slot? id' = if id = id' then none else s.slot? id' :=
  Table.get?_erase ..

theorem slot?_add : (s.add id slot).slot? id' = if id = id' then some slot else s.slot? id' := by
  have hget : (s.add id slot).slot? id' = ((s.slots.erase id).insert id slot).get? id' := rfl
  rw [hget, Table.get?_insert]
  split
  · rfl
  · next hne => rw [Table.get?_erase, if_neg hne, slot?]

variable {s id slot}

/-- The slot that a session has already may as well not be put in its place. -/
theorem put_of_slot?_eq_some (h : s.slot? id = some slot) : s.put id slot = s := by
  rw [put, Table.insert_of_get?_eq_some h]

/-- The list of sessions tells of every session that there is. -/
theorem find?_summaries (s : Store) {id : String} {slot : Slot} (h : s.slot? id = some slot) :
    (s.summaries.find? fun x => x.sessionId == id) = some (slot.summary id) := by
  rw [slot?, Table.get?] at h
  rw [summaries]
  generalize s.slots.entries = es at h ⊢
  induction es with
  | nil => cases h
  | cons e rest ih =>
    obtain ⟨id', slot'⟩ := e
    rw [Table.lookup] at h
    rw [List.map_cons, List.find?_cons]
    by_cases hid : id' = id
    · subst hid
      rw [if_pos rfl] at h
      cases h
      simp [Slot.summary]
    · rw [if_neg hid] at h
      simp only [Slot.summary, beq_eq_false_iff_ne.2 hid]
      exact ih h

theorem find_of_some (h : s.slot? id = some slot) : s.find id = .ok slot := by
  rw [find, h]

theorem find_of_none (h : s.slot? id = none) : s.find id = .error (.sessionNotFound id) := by
  rw [find, h]

end Store

/-! ### Commands -/

namespace Command

/-- The session that a command changes and publishes. -/
def updated? : Command → Option String
  | .watch id _ | .ingest id _ | .select id _ | .expand id _ _ | .connect id _ _ | .control id _ =>
    some id
  | .health | .create .. | .list | .view _ | .delete _ | .outbox _ | .stream _ | .preview .. => none

/-- The session that has to be there for a command. -/
def needs? : Command → Option String
  | .create .. | .health | .list => none
  | .view id | .delete id | .outbox id | .stream id | .preview id _ | .watch id _ | .ingest id _
  | .select id _ | .expand id _ _ | .connect id _ _ | .control id _ => some id

/-- The session that a command names; one that is created gets the identifier `newId`. -/
def session? (newId : String) : Command → Option String
  | .create .. => some newId
  | c => c.needs?

/-- Whether a command only asks for something. -/
def reads : Command → Bool
  | .health | .list | .view _ | .preview .. => true
  | _ => false

theorem updated?_of_reads {c : Command} (h : c.reads = true) : c.updated? = none := by
  cases c with
  | health | list | view | preview => rfl
  | _ => cases h

theorem session?_of_updated? {c : Command} {id : String} (h : c.updated? = some id)
    (newId : String) : c.session? newId = some id := by
  cases c with
  | watch | ingest | select | expand | connect | control => exact h
  | health | create | list | view | delete | outbox | stream | preview => cases h

end Command

/-- The place of a subscription that is answered. -/
def Answer.place? : Answer → Option Nat
  | subscribed place => some place
  | _ => none

/-- The message that is queued for a message when there is a root run or none: an action without a
run is aimed at the root run. -/
def ControlMessage.aimedAt (root : Option String) : ControlMessage → Option ControlMessage
  | .control action runId =>
    if runId = "" then root.map (.control action) else some (.control action runId)
  | message => some message

theorem ControlMessage.aimedAt_eq_none_iff {root : Option String} {message : ControlMessage} :
    message.aimedAt root = none ↔ root = none ∧ ∃ action, message = .control action "" := by
  cases message with
  | run | resume => simp [aimedAt]
  | control action runId => by_cases h : runId = "" <;> simp [aimedAt, h]

namespace Slot

/-- What a command that succeeds does to the slot of its session, and what it answers. -/
inductive Serves (s : Slot) : Command → Answer → Slot → Prop
  | watch (id target : String) : Serves s (.watch id target)
      (.shown (s.session.watch (Text.trim target)).snapshot)
      ⟨s.session.watch (Text.trim target), []⟩
  | ingest (id : String) (values : List Json) {totals : IngestTotals} {session : WatchSession}
      (h : s.session.ingestAll (decodeEvents values).1 = (totals, session)) :
      Serves s (.ingest id values) (.ingested totals (decodeEvents values).2) { s with session }
  | select (id stepId : String) {session : WatchSession}
      (h : s.session.select stepId = (true, session)) :
      Serves s (.select id stepId) (.shown session.snapshot) { s with session }
  | set (id stepId : String) (expanded : Bool) {session : WatchSession}
      (h : s.session.setExpanded stepId expanded = (true, session)) :
      Serves s (.expand id stepId (some expanded)) (.expanded stepId expanded) { s with session }
  | toggle (id stepId : String) {expanded : Bool} {session : WatchSession}
      (h : s.session.toggleExpanded stepId = (some expanded, session)) :
      Serves s (.expand id stepId none) (.expanded stepId expanded) { s with session }
  | connect (id : String) (connected : Bool) (error : Option String) {session : WatchSession}
      (h : session = if connected then s.session.markConnected
        else s.session.markDisconnected error) :
      Serves s (.connect id connected error) (.shown session.snapshot) { s with session }
  | control (id : String) {message queued : ControlMessage}
      (h : message.aimedAt s.session.view.rootRunId = some queued) :
      Serves s (.control id message) (.queued queued (s.outbox.length + 1))
        ⟨if message.startsRun then s.session.beginRun else s.session, s.outbox ++ [queued]⟩

/-- Whether a change of a slot serves a command, with an answer made of what it gives. A change that
fails has to leave the slot as it was. -/
def Heeds {α : Type} (c : Command) (answer : α → Snapshot → Answer) (s : Slot)
    (result : Except ServiceFault α × Slot) : Prop :=
  (∃ fault, result = (.error fault, s)) ∨
    ∃ a t, result = (.ok a, t) ∧ s.Serves c (answer a t.snapshot) t

variable (s : Slot) (id stepId : String)

theorem heeds_select :
    Heeds (.select id stepId) (fun _ view => .shown view) s (s.select stepId) := by
  cases h : s.session.view.contains stepId with
  | false =>
    refine .inl ⟨.stepNotFound stepId, ?_⟩
    rw [select, WatchSession.select_of_not_shown h]
    rfl
  | true =>
    rcases hselect : s.session.select stepId with ⟨known, session⟩
    have hknown : known = true := by
      rw [WatchSession.select, if_pos h] at hselect
      exact (Prod.mk.inj hselect).1.symm
    subst hknown
    have hanswer : s.select stepId = (.ok (), { s with session }) := by
      rw [select, hselect]
      rfl
    exact .inr ⟨_, _, hanswer, .select id stepId hselect⟩

theorem heeds_expand (expanded : Option Bool) :
    Heeds (.expand id stepId expanded) (fun b _ => .expanded stepId b) s
      (s.expand stepId expanded) := by
  cases h : s.session.view.row? stepId with
  | none =>
    refine .inl ⟨.stepNotFound stepId, ?_⟩
    cases expanded with
    | some expanded =>
      rw [expand, WatchSession.setExpanded_of_no_row h]
      rfl
    | none =>
      rw [expand, WatchSession.toggleExpanded_of_no_row h]
      rfl
  | some row =>
    right
    cases expanded with
    | some expanded =>
      rcases hset : s.session.setExpanded stepId expanded with ⟨known, session⟩
      have hknown : known = true := by
        rw [WatchSession.setExpanded, h] at hset
        exact (Prod.mk.inj hset).1.symm
      subst hknown
      have hanswer : s.expand stepId (some expanded) = (.ok expanded, { s with session }) := by
        rw [expand, hset]
        rfl
      exact ⟨_, _, hanswer, .set id stepId expanded hset⟩
    | none =>
      rcases htoggle : s.session.toggleExpanded stepId with ⟨_ | b, session⟩
      · rw [WatchSession.toggleExpanded, h] at htoggle
        cases htoggle
      · have hanswer : s.expand stepId none = (.ok b, { s with session }) := by
          rw [expand, htoggle]
          rfl
        exact ⟨_, _, hanswer, .toggle id stepId htoggle⟩

variable {s}

theorem enqueue_of_aimed {message queued : ControlMessage}
    (h : message.aimedAt s.session.view.rootRunId = some queued) :
    s.enqueue message = (.ok (queued, s.outbox.length + 1),
      ⟨if message.startsRun then s.session.beginRun else s.session, s.outbox ++ [queued]⟩) := by
  cases message with
  | run input | resume response =>
    cases h
    simp [enqueue, prepare, ControlMessage.startsRun]
  | control action runId =>
    by_cases hrun : runId = ""
    · simp only [ControlMessage.aimedAt, hrun, if_true, Option.map_eq_some_iff] at h
      obtain ⟨root, hroot, rfl⟩ := h
      simp [enqueue, prepare, hrun, WatchSession.controlMessage, hroot, Except.mapError,
        ControlMessage.startsRun]
    · simp only [ControlMessage.aimedAt, hrun, if_false, Option.some.injEq] at h
      simp [enqueue, prepare, hrun, h, ControlMessage.startsRun]

/-- A message that is aimed at no run is not queued, and nothing else is done. -/
theorem enqueue_of_aimless {message : ControlMessage}
    (h : message.aimedAt s.session.view.rootRunId = none) :
    s.enqueue message = (.error (.session .noActiveRun), s) := by
  cases message with
  | run input | resume response => cases h
  | control action runId =>
    by_cases hrun : runId = ""
    · simp only [ControlMessage.aimedAt, hrun, if_true, Option.map_eq_none_iff] at h
      simp [enqueue, prepare, hrun, WatchSession.controlMessage, h, Except.mapError]
    · simp [ControlMessage.aimedAt, hrun] at h

variable (s) in
theorem heeds_enqueue (message : ControlMessage) :
    Heeds (.control id message) (fun r _ => .queued r.1 r.2) s (s.enqueue message) := by
  cases h : message.aimedAt s.session.view.rootRunId with
  | none => exact .inl ⟨_, enqueue_of_aimless h⟩
  | some queued => exact .inr ⟨_, _, enqueue_of_aimed h, .control id h⟩

end Slot

/-! ### What a command does -/

namespace Service

/-- What a command does to a service, and what it answers. -/
inductive Ran (s : Service) (newId : String) : Command → Except ServiceFault Answer → Service → Prop
  | refused (c : Command) (fault : ServiceFault) : Ran s newId c (.error fault) s
  | told {c : Command} {a : Answer} (h : c.reads = true) (ha : a.place? = none) :
    Ran s newId c (.ok a) s
  | created (target : String) (kinds : Option Catalog) (graph : Option Json)
      (h : Text.trim target ≠ "") : Ran s newId (.create target kinds graph) (.ok (.created newId))
        { s with
          store := s.store.create newId (Text.trim target) (catalogOf kinds graph) s.ledger }
  | deleted {id : String} {slot : Slot} (hslot : s.store.slot? id = some slot) :
      Ran s newId (.delete id) (.ok .deleted) { s with store := s.store.delete id }
  | updated {c : Command} {id : String} {slot slot' : Slot} {a : Answer}
      (hid : c.updated? = some id) (hslot : s.store.slot? id = some slot)
      (h : slot.Serves c a slot') : Ran s newId c (.ok a)
        { s with store := (s.store.put id slot').publish id slot'.snapshot }
  | drained {id : String} {slot : Slot} (hslot : s.store.slot? id = some slot) :
      Ran s newId (.outbox id) (.ok (.drained slot.outbox))
        { s with store := s.store.put id { slot with outbox := [] } }
  | subscribed {id : String} {slot : Slot} (hslot : s.store.slot? id = some slot) :
      Ran s newId (.stream id) (.ok (.subscribed s.store.subscriptions.length))
        { s with store := { s.store with
          subscriptions := s.store.subscriptions ++ [.start id slot.snapshot] } }

variable {s : Service} {newId id : String} {c : Command}

theorem ran_change {α : Type} {f : Slot → Except ServiceFault α × Slot}
    {answer : α → Snapshot → Answer} (hid : c.updated? = some id)
    (hf : ∀ slot : Slot, slot.Heeds c answer (f slot)) :
    s.Ran newId c (s.change id f answer).1 (s.change id f answer).2 := by
  rw [change, Store.update]
  cases hslot : s.store.slot? id with
  | none =>
    rw [Store.find_of_none hslot]
    exact .refused c _
  | some slot =>
    rw [Store.find_of_some hslot]
    rcases hf slot with ⟨fault, hfault⟩ | ⟨a, slot', hok, hserves⟩
    · simp only [hfault, Store.put_of_slot?_eq_some hslot]
      exact .refused c fault
    · simp only [hok]
      exact .updated hid hslot hserves

theorem place?_of_previewOf {stepId : String} {a : Answer} (h : s.previewOf id stepId = .ok a) :
    a.place? = none := by
  simp only [previewOf, bind, Except.bind] at h
  repeat' split at h
  all_goals cases h
  rfl

/-- What a command does is in the list. -/
theorem ran (s : Service) (newId : String) (c : Command) :
    s.Ran newId c (s.run newId c).1 (s.run newId c).2 := by
  cases c with
  | health | list => exact .told rfl rfl
  | create target kinds graph =>
    rw [run]
    split
    · exact .refused _ _
    · next htarget => exact .created target kinds graph htarget
  | view id =>
    rw [run]
    cases s.store.find id with
    | error fault => exact .refused _ fault
    | ok slot => exact .told rfl rfl
  | delete id =>
    rw [run]
    cases hslot : s.store.slot? id with
    | none =>
      rw [Store.find_of_none hslot]
      exact .refused _ _
    | some slot =>
      rw [Store.find_of_some hslot]
      exact .deleted hslot
  | watch id target =>
    rw [run]
    split
    · exact .refused _ _
    · exact ran_change rfl fun slot => .inr ⟨_, _, rfl, .watch id target⟩
  | ingest id values => exact ran_change rfl fun slot => .inr ⟨_, _, rfl, .ingest id values rfl⟩
  | select id stepId => exact ran_change rfl fun slot => slot.heeds_select id stepId
  | expand id stepId expanded =>
    exact ran_change rfl fun slot => slot.heeds_expand id stepId expanded
  | connect id connected error =>
    exact ran_change rfl fun slot => .inr ⟨_, _, rfl, .connect id connected error rfl⟩
  | control id message => exact ran_change rfl fun slot => slot.heeds_enqueue id message
  | outbox id =>
    rw [run]
    cases hslot : s.store.slot? id with
    | none =>
      rw [Store.find_of_none hslot]
      exact .refused _ _
    | some slot =>
      rw [Store.find_of_some hslot]
      exact .drained hslot
  | stream id =>
    rw [run, Store.subscribe]
    cases hslot : s.store.slot? id with
    | none =>
      rw [Store.find_of_none hslot]
      exact .refused _ _
    | some slot =>
      rw [Store.find_of_some hslot]
      exact .subscribed hslot
  | preview id stepId =>
    rw [run]
    cases h : s.previewOf id stepId with
    | error fault => exact .refused _ fault
    | ok a => exact .told rfl (place?_of_previewOf h)

/-- A command does not touch the sessions that it does not name. -/
theorem Ran.slot?_eq {answer : Except ServiceFault Answer} {t : Service}
    (h : s.Ran newId c answer t) (hid : c.session? newId ≠ some id) :
    t.store.slot? id = s.store.slot? id := by
  have hne : ∀ {id' : String}, c.session? newId = some id' → ¬ id' = id := fun h' heq =>
    hid (h'.trans (congrArg some heq))
  cases h with
  | refused | told | subscribed => rfl
  | created => exact (Store.slot?_add ..).trans (if_neg (hne rfl))
  | deleted => exact (Store.slot?_delete ..).trans (if_neg (hne rfl))
  | updated hid' => exact (Store.slot?_put ..).trans (if_neg (hne (c.session?_of_updated? hid' _)))
  | drained => exact (Store.slot?_put ..).trans (if_neg (hne rfl))

/-- A command does not touch the subscriptions to sessions that it does not name. -/
theorem Ran.subscription_eq {answer : Except ServiceFault Answer} {t : Service}
    (h : s.Ran newId c answer t) {place : Nat} {x : Subscription}
    (hid : c.session? newId ≠ some x.sessionId) (hx : s.store.subscriptions[place]? = some x) :
    t.store.subscriptions[place]? = some x := by
  have hne : ∀ {id' : String}, c.session? newId = some id' → ¬ x.sessionId = id' := fun h' heq =>
    hid (h'.trans (congrArg some heq.symm))
  cases h with
  | refused | told | drained => exact hx
  | created =>
    simp only [Store.create, Store.add, List.getElem?_map, hx, Option.map_some]
    rw [Subscription.close_of_ne (hne rfl)]
  | deleted =>
    simp only [Store.delete, List.getElem?_map, hx, Option.map_some]
    rw [Subscription.close_of_ne (hne rfl)]
  | updated hid' =>
    simp only [Store.publish, Store.put, List.getElem?_map, hx, Option.map_some]
    rw [Subscription.publish_of_ne (hne (c.session?_of_updated? hid' _))]
  | subscribed =>
    obtain ⟨hplace, -⟩ := List.getElem?_eq_some_iff.1 hx
    rw [List.getElem?_append_left hplace, hx]

/-! ### One call after another -/

end Service

/-- What happens to a service: a command is run, with an identifier for the session that it may
create; a subscription is read; or its reader gives it up. -/
inductive ServiceCall where
  | run (newId : String) (command : Command)
  | read (place : Nat)
  | leave (place : Nat)

/-- Whether a call creates a session with an identifier, or deletes the one that has it. -/
def ServiceCall.replaces (id : String) : ServiceCall → Bool
  | run newId (.create ..) => newId == id
  | run _ (.delete id') => id' == id
  | _ => false

namespace Service

/-- The service after a call. -/
def perform (s : Service) : ServiceCall → Service
  | .run newId c => (s.run newId c).2
  | .read place => { s with store := (s.store.read place).2 }
  | .leave place => { s with store := s.store.cancel place }

/-- The service after some calls. -/
def performAll (s : Service) (calls : List ServiceCall) : Service := calls.foldl perform s

/-- What some calls leave in a history, each by what it does to the service that it meets. -/
def history {α : Type} (entry : Service → ServiceCall → Option α) (s : Service) :
    List ServiceCall → List α
  | [] => []
  | call :: calls => (entry s call).toList ++ history entry (s.perform call) calls

variable {s : Service} {id : String} {slot : Slot}

@[simp] theorem slot?_read (place : Nat) :
    (s.perform (.read place)).store.slot? id = s.store.slot? id := by
  simp only [perform, Store.read]
  split <;> rfl

@[simp] theorem slot?_leave (place : Nat) :
    (s.perform (.leave place)).store.slot? id = s.store.slot? id := rfl

end Service

/-- Every change of a session that a command makes is one that calls of the session make. -/
theorem Slot.Serves.exists_performAll {s t : Slot} {c : Command} {a : Answer}
    (h : s.Serves c a t) : ∃ calls, t.session = s.session.performAll calls := by
  cases h with
  | watch id target => exact ⟨[.watch (Text.trim target)], rfl⟩
  | ingest id values h => exact ⟨[.ingestAll (decodeEvents values).1], (congrArg Prod.snd h).symm⟩
  | select id stepId h => exact ⟨[.select stepId], (congrArg Prod.snd h).symm⟩
  | set id stepId expanded h =>
    exact ⟨[.setExpanded stepId expanded], (congrArg Prod.snd h).symm⟩
  | toggle id stepId h => exact ⟨[.toggleExpanded stepId], (congrArg Prod.snd h).symm⟩
  | connect id connected error h =>
    cases connected with
    | true => exact ⟨[.markConnected], h⟩
    | false => exact ⟨[.markDisconnected error], h⟩
  | @control id message =>
    by_cases hrun : message.startsRun = true
    · exact ⟨[.beginRun], if_pos hrun⟩
    · exact ⟨[], if_neg hrun⟩

/-! ### Requests -/

namespace Service

variable {s : Service} {c : Command} {r : Request} {refusal : Refusal}

theorem handleWhole_of_error (newId : String) (h : r.command = .error refusal) :
    s.handleWhole newId r = (.text refusal.status "", s) := by
  rw [handleWhole, h]

theorem handleWhole_of_ok (newId : String) (h : r.command = .ok c) :
    s.handleWhole newId r = (responseOf (s.run newId c).1, (s.run newId c).2) := by
  rw [handleWhole, h]

/-- A request that is not always answered is handled as a whole; of a request for a head the answer
is cut then, and its subscription given up. -/
theorem handle_of_not_isPreflight (newId : String) (h : r.isPreflight = false) :
    s.handle newId r = if r.isHead then
        ((s.handleWhole newId r.whole).1.head,
          (s.handleWhole newId r.whole).2.withoutViews (s.handleWhole newId r.whole).1)
      else s.handleWhole newId r.whole := by
  rw [handle, if_neg (by simp [h])]
  split
  · rfl
  · next hwhole => rw [Request.whole, if_neg hwhole]

/-- What a request does is made of calls: its command is run, if it is one, and the subscription that
nobody will read is given up. -/
theorem exists_performAll_handle (s : Service) (newId : String) (r : Request) :
    ∃ calls, (s.handle newId r).2 = s.performAll calls ∧ ∀ call ∈ calls,
      (∃ c, r.whole.command = .ok c ∧ call = .run newId c) ∨ ∃ place, call = .leave place := by
  cases hpreflight : r.isPreflight with
  | true =>
    refine ⟨[], ?_, by simp⟩
    rw [handle, if_pos hpreflight]
    rfl
  | false =>
    rw [handle_of_not_isPreflight newId hpreflight]
    cases hc : r.whole.command with
    | error refusal =>
      refine ⟨[], ?_, by simp⟩
      rw [handleWhole_of_error newId hc]
      split <;> rfl
    | ok c =>
      rw [handleWhole_of_ok newId hc]
      split
      · cases hresponse : responseOf (s.run newId c).1 with
        | json | text => exact ⟨[.run newId c], rfl, by simp⟩
        | views place => exact ⟨[.run newId c, .leave place], rfl, by simp⟩
      · exact ⟨[.run newId c], rfl, by simp⟩

end Service

end RunWatch
