import RunWatch.Proofs.Service.Calls
import RunWatch.Proofs.View.Root

/-!
# The outbox of a session

The answers of a service tell what passes through the outbox of a session (`OutboxEntry`): a control
message is queued, the outbox is drained, or another target is watched and the outbox cleared. A
message that is queued is decided by the first drain or clearing after it: it is delivered, dropped,
or still waits (`messagesWhere`).

* `OutboxEntry.Replays`: the outbox after a history, given the one before; every drain delivers all
  that waits.
* `Service.replays_performAll`: the calls of a service replay their history, whatever they do
  besides.
* `Service.delivered_once`: all messages are delivered once and in order, but for those dropped.
-/

namespace RunWatch

/-! ### Histories -/

/-- What may happen to an outbox. -/
inductive OutboxEntry where
  | queued (message : ControlMessage)
  | drained (messages : List ControlMessage)
  | cleared
  deriving DecidableEq

namespace OutboxEntry

/-- Whether nothing waits after an entry. -/
def empties : OutboxEntry → Bool
  | queued _ => false
  | drained _ | cleared => true

/-- What the answer to a command says about the outbox of a session. -/
def ofAnswer? (id : String) : Command → Except ServiceFault Answer → Option OutboxEntry
  | .control id' _, .ok (.queued message _) => if id' = id then some (queued message) else none
  | .outbox id', .ok (.drained messages) => if id' = id then some (drained messages) else none
  | .watch id' _, .ok _ => if id' = id then some cleared else none
  | _, _ => none

/-- The messages that the drains of a history have delivered. -/
def delivered : List OutboxEntry → List ControlMessage
  | [] => []
  | drained messages :: rest => messages ++ delivered rest
  | queued _ :: rest | cleared :: rest => delivered rest

/-- The first entry of a history that empties the outbox. -/
def next? (history : List OutboxEntry) : Option OutboxEntry := history.find? empties

/-- The messages queued in a history that pass a test on what empties the outbox next. -/
def messagesWhere (p : Option OutboxEntry → Bool) : List OutboxEntry → List ControlMessage
  | [] => []
  | queued message :: rest =>
    if p (next? rest) then message :: messagesWhere p rest else messagesWhere p rest
  | drained _ :: rest | cleared :: rest => messagesWhere p rest

/-- All messages queued in a history. -/
def accepted : List OutboxEntry → List ControlMessage := messagesWhere fun _ => true

/-- The messages queued in a history but those that waited when the outbox was cleared. -/
def kept : List OutboxEntry → List ControlMessage := messagesWhere fun next => next != some cleared

/-- The messages queued after the outbox was emptied for the last time. -/
def waiting : List OutboxEntry → List ControlMessage := messagesWhere Option.isNone

theorem queued_mem_of_mem_messagesWhere {p : Option OutboxEntry → Bool} {message : ControlMessage}
    {history : List OutboxEntry} (h : message ∈ messagesWhere p history) :
    queued message ∈ history := by
  induction history with
  | nil => cases h
  | cons entry rest ih =>
    cases entry with
    | queued m =>
      rw [messagesWhere] at h
      split at h
      · rcases List.mem_cons.1 h with rfl | hrest
        · exact List.mem_cons_self
        · exact List.mem_cons_of_mem _ (ih hrest)
      · exact List.mem_cons_of_mem _ (ih h)
    | drained | cleared => exact List.mem_cons_of_mem _ (ih h)

/-- Whether an outbox comes from another one by a history: a drain takes all that waits. -/
inductive Replays : List ControlMessage → List OutboxEntry → List ControlMessage → Prop
  | done (outbox : List ControlMessage) : Replays outbox [] outbox
  | queued {outbox outbox' : List ControlMessage} {rest : List OutboxEntry}
      (message : ControlMessage) (h : Replays (outbox ++ [message]) rest outbox') :
      Replays outbox (queued message :: rest) outbox'
  | drained {outbox outbox' : List ControlMessage} {rest : List OutboxEntry}
      (h : Replays [] rest outbox') : Replays outbox (drained outbox :: rest) outbox'
  | cleared {outbox outbox' : List ControlMessage} {rest : List OutboxEntry}
      (h : Replays [] rest outbox') : Replays outbox (cleared :: rest) outbox'

namespace Replays

variable {outbox outbox' outbox'' : List ControlMessage} {history history' : List OutboxEntry}

theorem append (h : Replays outbox history outbox') (h' : Replays outbox' history' outbox'') :
    Replays outbox (history ++ history') outbox'' := by
  induction h with
  | done => exact h'
  | queued message _ ih => exact .queued message (ih h')
  | drained _ ih => exact .drained (ih h')
  | cleared _ ih => exact .cleared (ih h')

/-- What waits after a history was queued since the outbox was emptied, or has waited before. -/
theorem outbox_eq (h : Replays outbox history outbox') :
    outbox' = (if (next? history).isNone then outbox else []) ++ waiting history := by
  induction h with
  | done => simp [next?, waiting, messagesWhere]
  | @queued outbox outbox' rest message _ ih =>
    have hnext : next? (OutboxEntry.queued message :: rest) = next? rest := rfl
    rw [ih, hnext, waiting, messagesWhere]
    cases next? rest <;> simp
  | drained _ ih => simpa [next?, empties, waiting, messagesWhere] using ih
  | cleared _ ih => simpa [next?, empties, waiting, messagesWhere] using ih

/-- What is delivered and what waits then is what was queued, in order, but for what was dropped. -/
theorem delivered_append (h : Replays outbox history outbox') : delivered history ++ outbox' =
    (if next? history = some .cleared then [] else outbox) ++ kept history := by
  induction h with
  | done => simp [delivered, next?, kept, messagesWhere]
  | @queued outbox outbox' rest message _ ih =>
    have hnext : next? (OutboxEntry.queued message :: rest) = next? rest := rfl
    rw [delivered, ih, hnext, kept, messagesWhere]
    by_cases hcleared : next? rest = some .cleared
    · simp [hcleared]
    · simp [hcleared]
  | @drained outbox outbox' rest _ ih =>
    have hnext : next? (OutboxEntry.drained outbox :: rest) =
      some (OutboxEntry.drained outbox) := rfl
    have hkept : kept (OutboxEntry.drained outbox :: rest) = kept rest := rfl
    rw [delivered, List.append_assoc, ih, hnext, hkept]
    simp
  | @cleared outbox outbox' rest _ ih =>
    have hnext : next? (OutboxEntry.cleared :: rest) = some OutboxEntry.cleared := rfl
    have hkept : kept (OutboxEntry.cleared :: rest) = kept rest := rfl
    rw [delivered, ih, hnext, hkept]
    simp

end Replays

end OutboxEntry

/-! ### Commands -/

open OutboxEntry

namespace Slot

variable {s t : Slot} {c : Command} {a : Answer} {id : String}

/-- What a command does to the outbox of the session that it changes. -/
theorem Serves.replays (h : s.Serves c a t) (hid : c.updated? = some id) :
    Replays s.outbox (ofAnswer? id c (.ok a)).toList t.outbox := by
  cases h with
  | watch =>
    cases hid
    simp only [ofAnswer?, if_true]
    exact .cleared (.done _)
  | control =>
    cases hid
    simp only [ofAnswer?, if_true]
    exact .queued _ (.done _)
  | ingest | select | set | toggle | connect => exact .done _

end Slot

namespace OutboxEntry

variable {id : String} {c : Command}

/-- Only the answers to commands that change a session or drain its outbox tell of its outbox. -/
theorem ofAnswer?_eq_none (hupdated : c.updated? ≠ some id) (hdrains : c ≠ .outbox id)
    (answer : Except ServiceFault Answer) : ofAnswer? id c answer = none := by
  unfold ofAnswer?
  split
  · exact if_neg fun h => hupdated (congrArg some h)
  · exact if_neg fun h => hdrains (congrArg Command.outbox h)
  · exact if_neg fun h => hupdated (congrArg some h)
  · rfl

theorem eq_of_ofAnswer?_eq_queued {answer : Except ServiceFault Answer} {m : ControlMessage}
    (h : ofAnswer? id c answer = some (queued m)) :
    ∃ message pending, c = .control id message ∧ answer = .ok (.queued m pending) := by
  unfold ofAnswer? at h
  split at h
  · next id' message m' pending =>
    rw [Option.ite_none_right_eq_some] at h
    obtain ⟨rfl, hm⟩ := h
    cases hm
    exact ⟨message, pending, rfl, rfl⟩
  · split at h <;> cases h
  · split at h <;> cases h
  · cases h

theorem ofAnswer?_error (fault : ServiceFault) : ofAnswer? id c (.error fault) = none := by
  cases c <;> rfl

end OutboxEntry

namespace Service

variable {s : Service} {id : String} {slot : Slot}

/-- What a call does to the outbox of a session, by its answer. -/
def outboxChange? (id : String) (s : Service) : ServiceCall → Option OutboxEntry
  | .run newId c => ofAnswer? id c (s.run newId c).1
  | .read _ | .leave _ => none

/-- What a command does to the outbox of a session, and to the session itself. -/
theorem Ran.replays {newId : String} {c : Command} {answer : Except ServiceFault Answer}
    {t : Service} (h : s.Ran newId c answer t) (hslot : s.store.slot? id = some slot)
    (hcall : (ServiceCall.run newId c).replaces id = false) :
    ∃ slot', t.store.slot? id = some slot' ∧
      Replays slot.outbox (ofAnswer? id c answer).toList slot'.outbox ∧
      ∃ calls, slot'.session = slot.session.performAll calls := by
  by_cases hnamed : c.session? newId = some id
  · -- A command about this session: it is none of those that replace it.
    cases h with
    | refused =>
      rw [ofAnswer?_error]
      exact ⟨slot, hslot, .done _, [], rfl⟩
    | told hreads =>
      rw [ofAnswer?_eq_none (by simp [Command.updated?_of_reads hreads])
        (by rintro rfl; cases hreads)]
      exact ⟨slot, hslot, .done _, [], rfl⟩
    | created | deleted =>
      cases hnamed
      simp [ServiceCall.replaces] at hcall
    | @updated _ id' before after _ hid hbefore hserves =>
      have hsame : id' = id :=
        Option.some.inj ((Command.session?_of_updated? hid newId).symm.trans hnamed)
      subst hsame
      rw [hslot] at hbefore
      cases hbefore
      refine ⟨after, ?_, hserves.replays hid, hserves.exists_performAll⟩
      rw [Store.slot?_publish, Store.slot?_put, if_pos rfl]
    | @drained id' before hbefore =>
      cases hnamed
      rw [hslot] at hbefore
      cases hbefore
      refine ⟨{ slot with outbox := [] }, ?_, ?_, [], rfl⟩
      · rw [Store.slot?_put, if_pos rfl]
      · simp only [ofAnswer?, if_true]
        exact .drained (.done _)
    | subscribed => exact ⟨slot, hslot, .done _, [], rfl⟩
  · have hupdated : c.updated? ≠ some id := fun h => hnamed (Command.session?_of_updated? h newId)
    have hdrains : c ≠ .outbox id := by
      rintro rfl
      exact hnamed rfl
    rw [ofAnswer?_eq_none hupdated hdrains]
    exact ⟨slot, (h.slot?_eq hnamed).trans hslot, .done _, [], rfl⟩

theorem replays_perform (hslot : s.store.slot? id = some slot) {call : ServiceCall}
    (hcall : call.replaces id = false) : ∃ slot', (s.perform call).store.slot? id = some slot' ∧
      Replays slot.outbox (outboxChange? id s call).toList slot'.outbox ∧
      ∃ calls, slot'.session = slot.session.performAll calls := by
  cases call with
  | run newId c => exact (s.ran newId c).replays hslot hcall
  | read place => exact ⟨slot, (slot?_read place).trans hslot, .done _, [], rfl⟩
  | leave place => exact ⟨slot, (slot?_leave place).trans hslot, .done _, [], rfl⟩

/-- As long as a session is not replaced, calls replay their history on its outbox. -/
theorem replays_performAll (hslot : s.store.slot? id = some slot) {calls : List ServiceCall}
    (hcalls : ∀ call ∈ calls, call.replaces id = false) :
    ∃ slot', (s.performAll calls).store.slot? id = some slot' ∧
      Replays slot.outbox (history (outboxChange? id) s calls) slot'.outbox ∧
      ∃ calls', slot'.session = slot.session.performAll calls' := by
  induction calls generalizing s slot with
  | nil => exact ⟨slot, hslot, .done _, [], rfl⟩
  | cons call calls ih =>
    obtain ⟨middle, hmiddle, hreplays, first, hfirst⟩ :=
      replays_perform hslot (hcalls call List.mem_cons_self)
    obtain ⟨last, hlast, hlater, later, hsession⟩ :=
      ih hmiddle fun call' hcall' => hcalls call' (List.mem_cons_of_mem _ hcall')
    refine ⟨last, hlast, hreplays.append hlater, first ++ later, ?_⟩
    rw [hsession, hfirst]
    exact List.foldl_append.symm

/-! ### Control messages -/

section

variable {message queued : ControlMessage} (newId : String)

/-- A message that is aimed at a run, or that needs none, is queued behind those that wait. -/
theorem run_control_of_aimed (hslot : s.store.slot? id = some slot)
    (h : message.aimedAt slot.session.view.rootRunId = some queued) :
    ∃ slot', (s.run newId (.control id message)).2.store.slot? id = some slot' ∧
      slot'.outbox = slot.outbox ++ [queued] ∧
      (s.run newId (.control id message)).1 = .ok (.queued queued slot'.outbox.length) := by
  refine ⟨⟨if message.startsRun then slot.session.beginRun else slot.session,
    slot.outbox ++ [queued]⟩, ?_, rfl, ?_⟩
  · simp only [run, change, Store.update, Store.find_of_some hslot, Slot.enqueue_of_aimed h]
    rw [Store.slot?_publish, Store.slot?_put, if_pos rfl]
  · simp only [run, change, Store.update, Store.find_of_some hslot, Slot.enqueue_of_aimed h,
      Except.map, List.length_append, List.length_singleton]

theorem run_control_of_aimless (hslot : s.store.slot? id = some slot)
    (h : message.aimedAt slot.session.view.rootRunId = none) :
    s.run newId (.control id message) = (.error (.session .noActiveRun), s) := by
  simp only [run, change, Store.update, Store.find_of_some hslot, Slot.enqueue_of_aimless h,
    Store.put_of_slot?_eq_some hslot, Except.map]

theorem run_outbox (hslot : s.store.slot? id = some slot) :
    (s.run newId (.outbox id)).1 = .ok (.drained slot.outbox) := by
  simp only [run, Store.find_of_some hslot]

end

/-- A message that is aimed at the root run of an up-to-date session names a run. -/
theorem ne_of_aimedAt {session : WatchSession} (h : session.Fresh) {message queued : ControlMessage}
    (hqueued : message.aimedAt session.view.rootRunId = some queued) (action : ControlAction) :
    queued ≠ .control action "" := by
  rintro rfl
  cases message with
  | run | resume => cases hqueued
  | control action' runId =>
    by_cases hrun : runId = ""
    · simp only [ControlMessage.aimedAt, hrun, if_true, Option.map_eq_some_iff] at hqueued
      obtain ⟨root, hroot, heq⟩ := hqueued
      rw [h.agrees.rootRunId_eq, WatchSession.derived, RunView.rootRunId_derive] at hroot
      exact ne_of_rootRunId?_eq_some hroot (ControlMessage.control.inj heq).2
    · simp only [ControlMessage.aimedAt, hrun, if_false, Option.some.injEq] at hqueued
      exact hrun (ControlMessage.control.inj hqueued).2

theorem ne_of_outboxChange? (hslot : s.store.slot? id = some slot) (hfresh : slot.session.Fresh)
    {call : ServiceCall} {queued : ControlMessage}
    (h : outboxChange? id s call = some (.queued queued)) (action : ControlAction) :
    queued ≠ .control action "" := by
  cases call with
  | read | leave => cases h
  | run newId c =>
    obtain ⟨message, pending, rfl, hanswer⟩ := eq_of_ofAnswer?_eq_queued h
    cases haimed : message.aimedAt slot.session.view.rootRunId with
    | none =>
      rw [run_control_of_aimless newId hslot haimed] at hanswer
      cases hanswer
    | some m =>
      obtain ⟨slot', -, -, hqueued⟩ := run_control_of_aimed newId hslot haimed
      rw [hqueued] at hanswer
      cases hanswer
      exact ne_of_aimedAt hfresh haimed action

/-- No message that is queued on the way names no run. -/
theorem ne_of_mem_accepted (hslot : s.store.slot? id = some slot) (hfresh : slot.session.Fresh)
    {calls : List ServiceCall} (hcalls : ∀ call ∈ calls, call.replaces id = false)
    (action : ControlAction) :
    .control action "" ∉ accepted (history (outboxChange? id) s calls) := by
  intro hmem
  replace hmem := queued_mem_of_mem_messagesWhere hmem
  -- A call is judged in the service that it meets, so freshness has to be carried along.
  induction calls generalizing s slot with
  | nil => cases hmem
  | cons call calls ih =>
    rcases List.mem_append.1 hmem with hfirst | hlater
    · exact ne_of_outboxChange? hslot hfresh (Option.mem_toList.1 hfirst) action rfl
    · obtain ⟨middle, hmiddle, -, first, hfirst⟩ :=
        replays_perform hslot (hcalls call List.mem_cons_self)
      have hfresh' : middle.session.Fresh := by
        rw [hfirst]
        exact WatchSession.performAll_induction (fun _ call h => h.perform call) hfresh first
      exact ih hmiddle hfresh' (fun call' hcall' => hcalls call' (List.mem_cons_of_mem _ hcall'))
        hlater

/-! ### From the creation of a session on -/

/-- A session that is created watches its target, and nothing waits for its runtime. -/
theorem slot?_create (s : Service) (id : String) {target : String} (h : Text.trim target ≠ "")
    (kinds : Option Catalog) (graph : Option Json) :
    (s.run id (.create target kinds graph)).2.store.slot? id =
      some ⟨(WatchSession.new (catalogOf kinds graph) s.ledger).watch (Text.trim target), []⟩ := by
  rw [run, if_neg h]
  exact (Store.slot?_add ..).trans (if_pos rfl)

/-- After any calls since a session was created, what was drained from its outbox and then what
waits in it are the messages that were queued, each of them once and in their order, without those
that waited when another target was watched; and none of them names no run. What waits is what was
queued after the outbox was emptied for the last time. The list of sessions tells how many messages
wait, a drain takes these, and a message that is aimed at a run is queued behind them and counted;
one that is not is refused. -/
theorem delivered_once (s : Service) (id : String) {target : String}
    (htarget : Text.trim target ≠ "") (kinds : Option Catalog) (graph : Option Json)
    {calls : List ServiceCall} (hcalls : ∀ call ∈ calls, call.replaces id = false) :
    let start := (s.run id (.create target kinds graph)).2
    let t := start.performAll calls
    let entries := history (outboxChange? id) start calls
    ∃ slot, t.store.slot? id = some slot ∧
      delivered entries ++ slot.outbox = kept entries ∧ slot.outbox = waiting entries ∧
      (∀ action, .control action "" ∉ accepted entries) ∧
      (∀ newId, (t.run newId .list).1 = .ok (.sessions t.store.summaries)) ∧
      (t.store.summaries.find? fun x => x.sessionId == id) = some (slot.summary id) ∧
      (slot.summary id).pendingMessages = slot.outbox.length ∧
      (∀ newId, (t.run newId (.outbox id)).1 = .ok (.drained slot.outbox)) ∧
      ∀ (newId : String) (message : ControlMessage),
        match message.aimedAt slot.session.view.rootRunId with
        | none => t.run newId (.control id message) = (.error (.session .noActiveRun), t)
        | some m => ∃ slot',
          (t.run newId (.control id message)).2.store.slot? id = some slot' ∧
          slot'.outbox = slot.outbox ++ [m] ∧
          (t.run newId (.control id message)).1 = .ok (.queued m slot'.outbox.length) := by
  intro start t entries
  have hstart := s.slot?_create id htarget kinds graph
  have hfresh : ((WatchSession.new (catalogOf kinds graph) s.ledger).watch
      (Text.trim target)).Fresh := WatchSession.fresh_reset _
  obtain ⟨slot, hslot, hreplays, -⟩ := replays_performAll hstart hcalls
  refine ⟨slot, hslot, ?_, ?_, ne_of_mem_accepted hstart hfresh hcalls, fun _ => rfl,
    t.store.find?_summaries hslot, rfl, fun newId => run_outbox newId hslot,
    fun newId message => ?_⟩
  · simpa using hreplays.delivered_append
  · simpa using hreplays.outbox_eq
  · split
    · next haimless => exact run_control_of_aimless newId hslot haimless
    · next m haimed => exact run_control_of_aimed newId hslot haimed

/-- An action without a run is refused before a run is shown and aimed at that run after it. The
first two messages are drained; the third is dropped when another target is watched; the last one
waits. -/
theorem delivered_once_around_watch :
    let run := ServiceCall.run "t"
    let calls := [
      run (.control "s" (.control .pause "q")), run (.control "s" (.control .cancel "")),
      run (.ingest "s" [(Event.flowStart "r" none none).toJson]),
      run (.control "s" (.control .cancel "")), run (.outbox "s"),
      run (.control "s" (.resume .null)), run (.watch "s" "w"), run (.create "w" none none),
      run (.control "s" (.run .null))]
    let start := ((new .standard .missing).run "s" (.create "v" none none)).2
    let t := start.performAll calls
    let entries := history (outboxChange? "s") start calls
    Text.trim "v" ≠ "" ∧ (∀ call ∈ calls, call.replaces "s" = false) ∧
      entries = [.queued (.control .pause "q"), .queued (.control .cancel "r"),
        .drained [.control .pause "q", .control .cancel "r"], .queued (.resume .null), .cleared,
        .queued (.run .null)] ∧
      ∃ slot, t.store.slot? "s" = some slot ∧ slot.outbox = [.run .null] ∧
        delivered entries ++ slot.outbox =
          [.control .pause "q", .control .cancel "r", .run .null] ∧
        (∀ action, .control action "" ∉ accepted entries) ∧
        (t.run "t" (.outbox "s")).1 = .ok (.drained [.run .null]) := by
  intro run calls start t entries
  have htarget : Text.trim "v" ≠ "" := by decide +kernel
  have hcalls : ∀ call ∈ calls, call.replaces "s" = false := by decide +kernel
  have hentries : entries = [.queued (.control .pause "q"), .queued (.control .cancel "r"),
      .drained [.control .pause "q", .control .cancel "r"], .queued (.resume .null), .cleared,
      .queued (.run .null)] := by decide +kernel
  obtain ⟨slot, hslot, hdelivered, hwaiting, hnamed, -, -, -, hdrain, -⟩ :=
    delivered_once (new .standard .missing) "s" htarget none none hcalls
  have houtbox : slot.outbox = [.run .null] := hwaiting.trans (congrArg waiting hentries)
  refine ⟨htarget, hcalls, hentries, slot, hslot, houtbox,
    hdelivered.trans (congrArg kept hentries), hnamed, ?_⟩
  rw [← houtbox]
  exact hdrain "t"

end Service

end RunWatch
