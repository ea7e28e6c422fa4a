import RunWatch.Proofs.Service.Calls

/-!
# Requests that fail

A request fails when it is no command, or when its command does: the target is blank, the session is
unknown, the step is not shown or has no row, there is no root run to act on, or the artifact cannot
be had (`Service.Fails`). Nothing is undone after a failure, so the service stays as it was only
because every change of a session looks first and changes then (`Slot.Heeds`).

* `Service.run_error_iff`: a command fails for a reason of this list.
* `Service.handle_of_failure`: a request that fails leaves the service as it was.
* `Service.leaves_handle`: a request leaves the sessions that it does not name.
* `Service.failures_change_nothing`: these together, with what a session refuses.
-/

namespace RunWatch

/-! ### Statuses -/

/-- The status of a response. -/
def Response.status : Response → Nat
  | .json status _ | .text status _ => status
  | .views _ => 200

theorem Response.status_head (response : Response) : response.head.status = response.status := by
  cases response <;> rfl

theorem ServiceFault.le_status (fault : ServiceFault) : 400 ≤ fault.toResponse.status := by
  cases fault <;> simp [toResponse, Response.status, status]

theorem Refusal.le_status (refusal : Refusal) : 400 ≤ refusal.status := by
  cases refusal with
  | document fault => cases fault <;> simp [status]
  | unknownPath | wrongMethod | undecodablePath | unsupportedType => simp [status]

theorem Answer.status_lt (answer : Answer) : answer.toResponse.status < 400 := by
  cases answer <;> simp [toResponse, Response.status]

/-! ### Commands -/

/-- The target that a command brings. -/
def Command.target? : Command → Option String
  | .create target .. | .watch _ target => some target
  | _ => none

/-- A command that brings no target brings no blank one. -/
theorem Command.trim_ne_of_target?_eq_none {c : Command} (h : c.target? = none) (target : String)
    (htarget : c.target? = some target) : Text.trim target ≠ "" := by
  rw [h] at htarget
  cases htarget

namespace Service

variable {s : Service} {newId id : String} {c : Command} {fault : ServiceFault}

/-- Why a command fails: the target is blank, the session is unknown, the step is not shown or has
no row, there is no root run to act on, or the artifact cannot be had. -/
inductive Fails (s : Service) : Command → ServiceFault → Prop
  | blank {c : Command} {target : String} (hc : c.target? = some target)
      (h : Text.trim target = "") : Fails s c .emptyTarget
  | unknownSession {c : Command} {id : String} (hc : c.needs? = some id)
      (htarget : ∀ target, c.target? = some target → Text.trim target ≠ "")
      (h : s.store.slot? id = none) : Fails s c (.sessionNotFound id)
  | unshown {id stepId : String} {slot : Slot} {c : Command}
      (hc : c = .select id stepId ∨ c = .preview id stepId) (hslot : s.store.slot? id = some slot)
      (h : ¬ slot.session.view.Shows stepId) : Fails s c (.stepNotFound stepId)
  | rowless {id stepId : String} {slot : Slot} (expanded : Option Bool)
      (hslot : s.store.slot? id = some slot)
      (h : ∀ row ∈ flatten slot.session.view.tree, row.stepId ≠ stepId) :
      Fails s (.expand id stepId expanded) (.stepNotFound stepId)
  | rootless {id : String} {slot : Slot} (action : ControlAction)
      (hslot : s.store.slot? id = some slot) (h : slot.session.view.rootRunId = none) :
      Fails s (.control id (.control action "")) (.session .noActiveRun)
  | artifact {id stepId : String} {slot : Slot} {fault : ServiceFault}
      (hslot : s.store.slot? id = some slot) (hshown : slot.session.view.Shows stepId)
      (h : artifactOf s.artifacts (slot.session.view.preview? stepId) = .error fault) :
      Fails s (.preview id stepId) fault

/-- A change of a session fails when there is none, or when the change itself does. -/
theorem change_error_iff {α : Type} {f : Slot → Except ServiceFault α × Slot}
    {answer : α → Snapshot → Answer} : (s.change id f answer).1 = .error fault ↔
      s.store.slot? id = none ∧ fault = .sessionNotFound id ∨
        ∃ slot, s.store.slot? id = some slot ∧ (f slot).1 = .error fault := by
  rw [change, Store.update]
  cases hslot : s.store.slot? id with
  | none => simp [Store.find_of_none hslot, Except.map, @eq_comm _ fault]
  | some slot =>
    rw [Store.find_of_some hslot]
    rcases hf : f slot with ⟨_ | a, t⟩ <;> simp [hf, Except.map]

/-- A preview fails when the session is unknown, the step is not shown, or the artifact fails. -/
theorem previewOf_error_iff {stepId : String} : s.previewOf id stepId = .error fault ↔
    s.store.slot? id = none ∧ fault = .sessionNotFound id ∨
      ∃ slot, s.store.slot? id = some slot ∧
        (¬ slot.session.view.Shows stepId ∧ fault = .stepNotFound stepId ∨
          slot.session.view.Shows stepId ∧
            artifactOf s.artifacts (slot.session.view.preview? stepId) = .error fault) := by
  simp only [previewOf, bind, Except.bind, pure, Except.pure, ← RunView.contains_iff]
  cases hslot : s.store.slot? id with
  | none => simp [Store.find_of_none hslot, @eq_comm _ fault]
  | some slot =>
    rw [Store.find_of_some hslot]
    cases hshown : slot.session.view.contains stepId with
    | false => simp [hshown, @eq_comm _ fault]
    | true =>
      cases hartifact : artifactOf s.artifacts (slot.session.view.preview? stepId) <;>
        simp [hshown, hartifact]

theorem fst_select_error_iff {slot : Slot} {stepId : String} :
    (slot.select stepId).1 = .error fault ↔
      ¬ slot.session.view.Shows stepId ∧ fault = .stepNotFound stepId := by
  rw [Slot.select, WatchSession.select, ← RunView.contains_iff]
  cases slot.session.view.contains stepId <;> simp [@eq_comm _ fault]

theorem fst_expand_error_iff {slot : Slot} {stepId : String} {expanded : Option Bool} :
    (slot.expand stepId expanded).1 = .error fault ↔
      (∀ row ∈ flatten slot.session.view.tree, row.stepId ≠ stepId) ∧
        fault = .stepNotFound stepId := by
  rw [← WatchSession.row?_eq_none_iff]
  cases expanded <;> cases hrow : slot.session.view.row? stepId <;>
    simp [Slot.expand, WatchSession.setExpanded, WatchSession.toggleExpanded, hrow,
      @eq_comm _ fault]

theorem fst_enqueue_error_iff {slot : Slot} {message : ControlMessage} :
    (slot.enqueue message).1 = .error fault ↔ slot.session.view.rootRunId = none ∧
      (∃ action, message = .control action "") ∧ fault = .session .noActiveRun := by
  rw [← and_assoc, ← ControlMessage.aimedAt_eq_none_iff]
  cases h : message.aimedAt slot.session.view.rootRunId with
  | none => simp [Slot.enqueue_of_aimless h, @eq_comm _ fault]
  | some m => simp [Slot.enqueue_of_aimed h]

/-- A command about a session that is not there fails, after its target was looked at. -/
theorem run_of_unknown (newId : String) (hc : c.needs? = some id)
    (htarget : ∀ target, c.target? = some target → Text.trim target ≠ "")
    (h : s.store.slot? id = none) : (s.run newId c).1 = .error (.sessionNotFound id) := by
  cases c with
  | health | create | list => cases hc
  | view | delete | outbox | stream =>
    cases hc
    simp only [run, Store.subscribe, Store.find_of_none h, Except.map]
  | watch id target =>
    cases hc
    rw [run, if_neg (htarget target rfl)]
    exact change_error_iff.2 (.inl ⟨h, rfl⟩)
  | ingest | select | expand | connect | control =>
    cases hc
    exact change_error_iff.2 (.inl ⟨h, rfl⟩)
  | preview =>
    cases hc
    exact previewOf_error_iff.2 (.inl ⟨h, rfl⟩)

theorem run_of_fails (newId : String) (h : s.Fails c fault) :
    (s.run newId c).1 = .error fault := by
  cases h with
  | blank hc htarget =>
    cases c with
    | create | watch =>
      cases hc
      rw [run, if_pos htarget]
    | _ => cases hc
  | unknownSession hc htarget h => exact run_of_unknown newId hc htarget h
  | unshown hc hslot h =>
    rcases hc with rfl | rfl
    · exact change_error_iff.2 (.inr ⟨_, hslot, fst_select_error_iff.2 ⟨h, rfl⟩⟩)
    · exact previewOf_error_iff.2 (.inr ⟨_, hslot, .inl ⟨h, rfl⟩⟩)
  | rowless expanded hslot h =>
    exact change_error_iff.2 (.inr ⟨_, hslot, fst_expand_error_iff.2 ⟨h, rfl⟩⟩)
  | rootless action hslot h =>
    exact change_error_iff.2 (.inr ⟨_, hslot, fst_enqueue_error_iff.2 ⟨h, ⟨action, rfl⟩, rfl⟩⟩)
  | artifact hslot hshown h => exact previewOf_error_iff.2 (.inr ⟨_, hslot, .inr ⟨hshown, h⟩⟩)

/-- A change of a session fails for a reason of the list if it does so on the slot of a session that
is there. -/
theorem fails_of_change {α : Type} {f : Slot → Except ServiceFault α × Slot}
    {answer : α → Snapshot → Answer} (hc : c.needs? = some id)
    (htarget : ∀ target, c.target? = some target → Text.trim target ≠ "")
    (h : (s.change id f answer).1 = .error fault)
    (hf : ∀ slot, s.store.slot? id = some slot → (f slot).1 = .error fault → s.Fails c fault) :
    s.Fails c fault := by
  rcases change_error_iff.1 h with ⟨hslot, rfl⟩ | ⟨slot, hslot, hslot'⟩
  · exact .unknownSession hc htarget hslot
  · exact hf slot hslot hslot'

theorem fails_of_run (h : (s.run newId c).1 = .error fault) : s.Fails c fault := by
  cases c with
  | health | list => cases h
  | create target =>
    rw [run] at h
    split at h
    · next hblank =>
      cases h
      exact .blank rfl hblank
    · cases h
  | view id | delete id | outbox id | stream id =>
    cases hslot : s.store.slot? id with
    | none =>
      simp only [run, Store.subscribe, Store.find_of_none hslot, Except.map] at h
      cases h
      exact .unknownSession rfl (Command.trim_ne_of_target?_eq_none rfl) hslot
    | some slot =>
      simp only [run, Store.subscribe, Store.find_of_some hslot, Except.map] at h
      cases h
  | watch id target =>
    rw [run] at h
    split at h
    · next hblank =>
      cases h
      exact .blank rfl hblank
    · next hfull =>
      have htarget : ∀ target', (Command.watch id target).target? = some target' →
          Text.trim target' ≠ "" := fun _ heq => Option.some.inj heq ▸ hfull
      exact fails_of_change rfl htarget h fun _ _ hf => by cases hf
  | ingest | connect =>
    exact fails_of_change rfl (Command.trim_ne_of_target?_eq_none rfl) h fun _ _ hf => by cases hf
  | select id stepId =>
    refine fails_of_change rfl (Command.trim_ne_of_target?_eq_none rfl) h fun slot hslot hf => ?_
    obtain ⟨hshown, rfl⟩ := fst_select_error_iff.1 hf
    exact .unshown (.inl rfl) hslot hshown
  | expand id stepId expanded =>
    refine fails_of_change rfl (Command.trim_ne_of_target?_eq_none rfl) h fun slot hslot hf => ?_
    obtain ⟨hrow, rfl⟩ := fst_expand_error_iff.1 hf
    exact .rowless expanded hslot hrow
  | control id message =>
    refine fails_of_change rfl (Command.trim_ne_of_target?_eq_none rfl) h fun slot hslot hf => ?_
    obtain ⟨hroot, ⟨action, rfl⟩, rfl⟩ := fst_enqueue_error_iff.1 hf
    exact .rootless action hslot hroot
  | preview id stepId =>
    rcases previewOf_error_iff.1 h with ⟨hslot, rfl⟩ | ⟨slot, hslot, ⟨hshown, rfl⟩ | ⟨hshown, hf⟩⟩
    · exact .unknownSession rfl (Command.trim_ne_of_target?_eq_none rfl) hslot
    · exact .unshown (.inr rfl) hslot hshown
    · exact .artifact hslot hshown hf

/-- A command fails for the reasons of the list, and for no others. -/
theorem run_error_iff : (s.run newId c).1 = .error fault ↔ s.Fails c fault :=
  ⟨fails_of_run, run_of_fails newId⟩

/-- A command that fails leaves the service as it was. -/
theorem run_of_error (h : (s.run newId c).1 = .error fault) :
    s.run newId c = (.error fault, s) := by
  have hran := s.ran newId c
  rw [h] at hran
  refine Prod.ext h ?_
  generalize (s.run newId c).2 = t at hran ⊢
  cases hran
  rfl

theorem Ran.place_eq {t : Service} {answer : Except ServiceFault Answer} {place : Nat}
    (h : s.Ran newId c answer t) (hplace : responseOf answer = .views place) :
    place = s.store.subscriptions.length := by
  cases h with
  | refused => cases hplace
  | @told c a hreads ha =>
    cases a with
    | subscribed => cases ha
    | _ => cases hplace
  | created | deleted | drained => cases hplace
  | updated _ _ hserves => cases hserves <;> cases hplace
  | subscribed =>
    cases hplace
    rfl

/-! ### Requests -/

variable {r : Request}

theorem status_handle (newId : String) (h : r.isPreflight = false) :
    (s.handle newId r).1.status = (s.handleWhole newId r.whole).1.status := by
  rw [handle_of_not_isPreflight newId h]
  split
  · exact Response.status_head _
  · rfl

theorem le_status_handleWhole_iff : 400 ≤ (s.handleWhole newId r).1.status ↔
    (∃ refusal, r.command = .error refusal) ∨ ∃ c fault, r.command = .ok c ∧ s.Fails c fault := by
  cases h : r.command with
  | error refusal =>
    rw [handleWhole_of_error newId h]
    exact iff_of_true refusal.le_status (.inl ⟨refusal, rfl⟩)
  | ok c =>
    rw [handleWhole_of_ok newId h]
    cases hrun : (s.run newId c).1 with
    | error fault =>
      exact iff_of_true fault.le_status (.inr ⟨c, fault, rfl, run_error_iff.1 hrun⟩)
    | ok answer =>
      refine iff_of_false (Nat.not_le.2 answer.status_lt) ?_
      rintro (⟨refusal, hrefusal⟩ | ⟨c', fault, hc, hfails⟩)
      · cases hrefusal
      · cases hc
        rw [run_of_fails newId hfails] at hrun
        cases hrun

theorem handleWhole_of_failure (h : 400 ≤ (s.handleWhole newId r).1.status) :
    (s.handleWhole newId r).2 = s := by
  rcases le_status_handleWhole_iff.1 h with ⟨refusal, hrefusal⟩ | ⟨c, fault, hc, hfails⟩
  · rw [handleWhole_of_error newId hrefusal]
  · rw [handleWhole_of_ok newId hc, run_of_error (run_of_fails newId hfails)]

theorem withoutViews_of_failure {response : Response} (h : 400 ≤ response.status) :
    s.withoutViews response = s := by
  cases response with
  | json | text => rfl
  | views => exact absurd h (by simp [Response.status])

/-- A request that is answered with the status of an error leaves the service as it was. -/
theorem handle_of_failure (h : 400 ≤ (s.handle newId r).1.status) : (s.handle newId r).2 = s := by
  cases hpreflight : r.isPreflight with
  | true =>
    rw [handle, if_pos hpreflight]
  | false =>
    rw [status_handle newId hpreflight] at h
    have hwhole := handleWhole_of_failure h
    rw [handle_of_not_isPreflight newId hpreflight]
    split
    · exact (withoutViews_of_failure h).trans hwhole
    · exact hwhole

/-! ### Other sessions -/

/-- Whether a session is the same in two services, and what was published of it. -/
structure Leaves (id : String) (s t : Service) : Prop where
  slot?_eq : t.store.slot? id = s.store.slot? id
  subscription_eq : ∀ (place : Nat) (x : Subscription), s.store.subscriptions[place]? = some x →
    x.sessionId = id → t.store.subscriptions[place]? = some x

theorem Leaves.refl (id : String) (s : Service) : Leaves id s s := ⟨rfl, fun _ _ hx _ => hx⟩

theorem leaves_run (hid : c.session? newId ≠ some id) : Leaves id s (s.run newId c).2 where
  slot?_eq := (s.ran newId c).slot?_eq hid
  subscription_eq _ _ hx hx' := (s.ran newId c).subscription_eq (hx' ▸ hid) hx

/-- A subscription that a request for a head gives up is the one that it has just got. -/
theorem Leaves.withoutViews {t : Service} {answer : Except ServiceFault Answer}
    (hran : s.Ran newId c answer t) (h : Leaves id s t) :
    Leaves id s (t.withoutViews (responseOf answer)) := by
  cases hresponse : responseOf answer with
  | json | text => exact h
  | views place =>
    refine ⟨h.slot?_eq, fun place' x hx hid => ?_⟩
    have hplace : place = s.store.subscriptions.length := hran.place_eq hresponse
    -- The new subscription stands behind all those that there were before.
    obtain ⟨hlt, -⟩ := List.getElem?_eq_some_iff.1 hx
    rw [Service.withoutViews, Store.cancel, List.getElem?_modify_ne _ _ (by omega)]
    exact h.subscription_eq place' x hx hid

/-- A request does not touch a session that its command does not name. -/
theorem leaves_handle (hid : ∀ c, r.whole.command = .ok c → c.session? newId ≠ some id) :
    Leaves id s (s.handle newId r).2 := by
  cases hpreflight : r.isPreflight with
  | true =>
    rw [handle, if_pos hpreflight]
    exact .refl id s
  | false =>
    rw [handle_of_not_isPreflight newId hpreflight]
    cases hc : r.whole.command with
    | error refusal =>
      rw [handleWhole_of_error newId hc]
      split <;> exact .refl id s
    | ok c =>
      have hrun : Leaves id s (s.run newId c).2 := leaves_run (hid c hc)
      rw [handleWhole_of_ok newId hc]
      split
      · exact hrun.withoutViews (s.ran newId c)
      · exact hrun

/-- A request is answered with the status of an error when it is no command, or a command that
fails; the service is then as it was before, with all sessions and subscriptions. Whatever the
answer is, a session that the command does not name stays as it was, and nothing is published of it.
A session itself, after any calls, refuses what is unfit for it, and is then as it was; so it is
after a batch of which no event is accepted, and after a message that has no run to act on. Some
calls do what is left of them without the refused ones and without the rejected events. -/
theorem failures_change_nothing (s : Service) (newId : String) (r : Request) :
    (400 ≤ (s.handle newId r).1.status ↔ r.isPreflight = false ∧
      ((∃ refusal, r.whole.command = .error refusal) ∨
        ∃ c fault, r.whole.command = .ok c ∧ s.Fails c fault)) ∧
    (400 ≤ (s.handle newId r).1.status → (s.handle newId r).2 = s) ∧
    (∀ id, (∀ c, r.whole.command = .ok c → c.session? newId ≠ some id) →
      Leaves id s (s.handle newId r).2) ∧
    ∀ catalog config before,
      let session := (WatchSession.new catalog config).performAll before
      (∀ call, session.refuses call = true ↔ session.Unfit call) ∧
      (∀ call, session.refuses call = true → session.perform call = session) ∧
      (∀ events, session.accepted events = [] → session.perform (.ingestAll events) = session) ∧
      (session.view.rootRunId = none → ∀ action outbox,
        session.controlMessage action = .error .noActiveRun ∧
        Slot.enqueue ⟨session, outbox⟩ (.control action "") =
          (.error (.session .noActiveRun), ⟨session, outbox⟩)) ∧
      ∀ calls, session.performAll (session.withoutRefused calls) = session.performAll calls := by
  refine ⟨?_, handle_of_failure, fun id => leaves_handle, fun catalog config before => ?_⟩
  · cases hpreflight : r.isPreflight with
    | true =>
      rw [handle, if_pos hpreflight]
      simp [Response.status]
    | false =>
      rw [status_handle newId hpreflight, le_status_handleWhole_iff, and_iff_right rfl]
  · intro session
    have hfresh : session.Fresh := WatchSession.fresh_performAll catalog config before
    refine ⟨fun call => WatchSession.refuses_iff, fun call => WatchSession.perform_of_refuses,
      fun events => WatchSession.perform_ingestAll_of_rejected hfresh.not_stale,
      fun hroot action outbox => ⟨?_, ?_⟩, session.performAll_withoutRefused⟩
    · rw [WatchSession.controlMessage, hroot]
    · have haimless : (ControlMessage.control action "").aimedAt session.view.rootRunId = none :=
        ControlMessage.aimedAt_eq_none_iff.2 ⟨hroot, action, rfl⟩
      exact Slot.enqueue_of_aimless haimless

/-- A message without a run is refused and leaves both sessions; a drain of one of them leaves the
other. A session is asked for an unknown step and given events while it is disconnected. -/
theorem failures_change_nothing_beside_drain :
    let s := (((new .standard .missing).run "s" (.create "v" none none)).2.run "t"
      (.create "w" none none)).2
    let refused : Request :=
      ⟨"POST", "/api/sessions/s/control", some "application/json", "[\"control\",\"cancel\",\"\"]"⟩
    let drain : Request := ⟨"GET", "/api/sessions/s/outbox", none, ""⟩
    let e : Event := .flowStart "r" none none
    let session := (WatchSession.new .empty .standard).performAll [.watch "w"]
    (s.handle "u" refused).1.status = 409 ∧ (s.handle "u" refused).2 = s ∧
      (s.handle "u" drain).1.status = 200 ∧ Leaves "t" s (s.handle "u" drain).2 ∧
      session.performAll [.markDisconnected none, .ingestAll [], .markConnected, .ingest e] =
        session.performAll [.select "x", .markDisconnected none, .ingest e, .ingestAll [e, e],
          .toggleExpanded "x", .markConnected, .ingest e] := by
  intro s refused drain e session
  obtain ⟨-, hkeeps, -, hsession⟩ := failures_change_nothing s "u" refused
  obtain ⟨-, -, hleaves, -⟩ := failures_change_nothing s "u" drain
  have hrefused : (s.handle "u" refused).1.status = 409 := by decide +kernel
  have hdrain : drain.whole.command.toOption.bind (Command.session? "u") = some "s" := by
    decide +kernel
  obtain ⟨-, -, -, -, hwithout⟩ := hsession .empty .standard [.watch "w"]
  refine ⟨hrefused, hkeeps (by omega), by decide +kernel, hleaves "t" fun c hc => ?_, ?_⟩
  · rw [hc, Except.toOption, Option.bind_some] at hdrain
    simp [hdrain]
  · have hleft : session.withoutRefused [.select "x", .markDisconnected none, .ingest e,
        .ingestAll [e, e], .toggleExpanded "x", .markConnected, .ingest e] =
        [.markDisconnected none, .ingestAll [], .markConnected, .ingest e] := by decide +kernel
    rw [← hleft]
    exact hwithout _

end Service

end RunWatch
