import Mathlib.Data.List.DropRight
import RunWatch.Proofs.Service.Calls

/-!
# What a subscriber hears

Every command that changes a session publishes the view that the session then shows
(`StreamEntry`). A subscription starts with the view at that time and takes the published ones one
after another. A reading gives all that came since the reading before; of the published views it
gives the last `Subscription.capacity` only, when more of them came (`rounds`).

* `StreamEntry.Follows`: a subscription after a history, given the one before.
* `Service.follows_performAll`: the calls of a service bring their history to every open
  subscription, and the session shows the last view that was published.
* `Service.stream_complete`: a subscriber misses nothing, and hears nothing twice or out of order.
-/

namespace RunWatch

/-! ### Histories -/

/-- What may happen to a subscription: a view is published to it, or it is read. -/
inductive StreamEntry where
  | published (view : Snapshot)
  | read (views : List Snapshot)

namespace StreamEntry

/-- The views published in a history. -/
def views : List StreamEntry → List Snapshot
  | [] => []
  | published view :: rest => view :: views rest
  | read _ :: rest => views rest

/-- What the readings of a history gave. -/
def readings : List StreamEntry → List (List Snapshot)
  | [] => []
  | published _ :: rest => readings rest
  | read views :: rest => views :: readings rest

/-- The views published before each reading since the one before it, and those since the last one.
Some have been published since a reading before the history. -/
def rounds (since : List Snapshot) : List StreamEntry → List (List Snapshot)
  | [] => [since]
  | published view :: rest => rounds (since ++ [view]) rest
  | read _ :: rest => since :: rounds [] rest

theorem flatten_rounds (since : List Snapshot) (history : List StreamEntry) :
    (rounds since history).flatten = since ++ views history := by
  induction history generalizing since with
  | nil => rw [rounds, views, List.flatten_singleton, List.append_nil]
  | cons entry rest ih =>
    cases entry with
    | published view => rw [rounds, views, ih, List.append_assoc, List.singleton_append]
    | read => rw [rounds, views, List.flatten_cons, ih, List.nil_append]

theorem views_append (history history' : List StreamEntry) :
    views (history ++ history') = views history ++ views history' := by
  induction history with
  | nil => rfl
  | cons entry rest ih =>
    cases entry with
    | published view => exact congrArg (view :: ·) ih
    | read => exact ih

/-- Whether a subscription comes from another one by a history: a reading gives all there is. -/
inductive Follows : Subscription → List StreamEntry → Subscription → Prop
  | done (x : Subscription) : Follows x [] x
  | published {x y : Subscription} {rest : List StreamEntry} (view : Snapshot)
      (h : Follows (x.deliver view) rest y) : Follows x (published view :: rest) y
  | read {x y : Subscription} {rest : List StreamEntry} (h : Follows x.take.2 rest y) :
      Follows x (read x.take.1 :: rest) y

end StreamEntry

open StreamEntry

/-- Of the last views the last ones are kept, so only what came since the last reading matters. -/
theorem Subscription.unread_deliver {x : Subscription} {since : List Snapshot}
    (h : x.unread = since.rtake capacity) (view : Snapshot) :
    (x.deliver view).unread = (since ++ [view]).rtake capacity := by
  have hlast : (x.deliver view).unread = (x.unread ++ [view]).rtake capacity := rfl
  rw [hlast, h, capacity, List.rtake_concat_succ, List.rtake_concat_succ,
    List.rtake_eq_reverse_take_reverse, List.rtake_eq_reverse_take_reverse,
    List.rtake_eq_reverse_take_reverse, List.reverse_reverse, List.take_take]
  rfl

namespace StreamEntry.Follows

variable {x y z : Subscription} {history history' : List StreamEntry} {view : Snapshot}

theorem append (h : Follows x history y) (h' : Follows y history' z) :
    Follows x (history ++ history') z := by
  induction h with
  | done => exact h'
  | published view _ ih => exact .published view (ih h')
  | read _ ih => exact .read (ih h')

/-- Every reading gives the last of the views that came since the one before; the first one gives
the view at the start in front of them. -/
theorem readings_append (h : Follows x history y) {since : List Snapshot}
    (hunread : x.unread = since.rtake Subscription.capacity) :
    ∃ first later, rounds since history = first :: later ∧ readings history ++ [y.take.1] =
      (x.initial.toList ++ first.rtake Subscription.capacity) ::
        later.map (·.rtake Subscription.capacity) := by
  -- What was published since the last reading grows until the next one, which empties it.
  induction h generalizing since with
  | done x =>
    refine ⟨since, [], rfl, ?_⟩
    rw [Subscription.take, hunread]
    rfl
  | published view _ ih => exact ih (Subscription.unread_deliver hunread view)
  | @read x y rest _ ih =>
    have hnone : x.take.2.unread = List.rtake [] Subscription.capacity := rfl
    obtain ⟨first, later, hrounds, hreadings⟩ := ih hnone
    refine ⟨since, rounds [] rest, rfl, ?_⟩
    rw [readings, List.cons_append, hreadings, hrounds, Subscription.take, hunread]
    rfl

/-- As long as no more views come between two readings than are kept, all of them are heard. -/
theorem flatten_readings {id : String} (h : Follows (.start id view) history y)
    (hshort : ∀ round ∈ rounds [] history, round.length ≤ Subscription.capacity) :
    (readings history).flatten ++ y.take.1 = view :: views history := by
  have hnone : (Subscription.start id view).unread = List.rtake [] Subscription.capacity := rfl
  obtain ⟨first, later, hrounds, hreadings⟩ := h.readings_append hnone
  have hall : ∀ round ∈ first :: later, round.rtake Subscription.capacity = round :=
    fun round hround => by
      rw [List.rtake, Nat.sub_eq_zero_of_le (hshort round (hrounds ▸ hround)), List.drop_zero]
  rw [hall first List.mem_cons_self, List.map_congr_left fun round hround =>
    hall round (List.mem_cons_of_mem _ hround), List.map_id'] at hreadings
  calc (readings history).flatten ++ y.take.1
      = (readings history ++ [y.take.1]).flatten := by
        rw [List.flatten_append, List.flatten_singleton]
    _ = ((view :: first) :: later).flatten := congrArg List.flatten hreadings
    _ = view :: (rounds [] history).flatten := by
        rw [hrounds, List.flatten_cons, List.flatten_cons, List.cons_append]
    _ = view :: views history := by rw [flatten_rounds, List.nil_append]

end StreamEntry.Follows

/-! ### Calls -/

namespace Service

variable {s t : Service} {newId id : String} {place : Nat} {slot : Slot} {x : Subscription}

/-- What a command publishes of a session: the view after it, if it changes the session and does
not fail. -/
def published? (id : String) (c : Command) (answer : Except ServiceFault Answer) (t : Service) :
    Option StreamEntry :=
  if c.updated? = some id ∧ answer.isOk = true then
    (t.store.slot? id).map fun slot => .published slot.snapshot
  else none

theorem published?_eq_none {c : Command} (h : c.updated? ≠ some id)
    (answer : Except ServiceFault Answer) (t : Service) : published? id c answer t = none :=
  if_neg fun both => h both.1

/-- What a call does to a subscription to a session. -/
def streamChange? (id : String) (place : Nat) (s : Service) : ServiceCall → Option StreamEntry
  | .run newId c => published? id c (s.run newId c).1 (s.run newId c).2
  | .read place' =>
    if place' = place then (s.store.read place).1.map fun reading => .read reading.1 else none
  | .leave _ => none

/-- Whether a session is there, and an open subscription to it at a place. -/
structure Follower (s : Service) (id : String) (place : Nat) (slot : Slot) (x : Subscription) :
    Prop where
  slot_eq : s.store.slot? id = some slot
  subscription_eq : s.store.subscriptions[place]? = some x
  sessionId_eq : x.sessionId = id
  isOpen : x.isOpen = true

/-- What a command does to a session and to a subscription to it. -/
theorem Ran.follows {c : Command} {answer : Except ServiceFault Answer}
    (h : s.Ran newId c answer t) (hs : s.Follower id place slot x)
    (hcall : (ServiceCall.run newId c).replaces id = false) :
    ∃ slot' y, t.Follower id place slot' y ∧ Follows x (published? id c answer t).toList y ∧
      slot'.snapshot = (views (published? id c answer t).toList).getLastD slot.snapshot := by
  obtain ⟨hslot, hx, hid, hopen⟩ := hs
  by_cases hnamed : c.session? newId = some id
  · -- A command about this session: it is none of those that replace it.
    cases h with
    | refused _ fault =>
      have hnone : published? id c (.error fault) s = none := if_neg fun both => by cases both.2
      rw [hnone]
      exact ⟨slot, x, ⟨hslot, hx, hid, hopen⟩, .done x, rfl⟩
    | told hreads =>
      rw [published?_eq_none (by simp [Command.updated?_of_reads hreads])]
      exact ⟨slot, x, ⟨hslot, hx, hid, hopen⟩, .done x, rfl⟩
    | created | deleted =>
      cases hnamed
      simp [ServiceCall.replaces] at hcall
    | @updated _ id' before after a hid' hbefore hserves =>
      have hsame : id' = id :=
        Option.some.inj ((Command.session?_of_updated? hid' newId).symm.trans hnamed)
      subst hsame
      have hafter :
          ((s.store.put id' after).publish id' after.snapshot).slot? id' = some after := by
        rw [Store.slot?_publish, Store.slot?_put, if_pos rfl]
      have hpublished : published? id' c (.ok a)
          { s with store := (s.store.put id' after).publish id' after.snapshot } =
          some (.published after.snapshot) := by
        rw [published?, if_pos ⟨hid', rfl⟩, hafter, Option.map_some]
      rw [hpublished]
      refine ⟨after, x.deliver after.snapshot, ⟨hafter, ?_, hid, hopen⟩, .published _ (.done _),
        rfl⟩
      simp only [Store.publish, Store.put, List.getElem?_map, hx, Option.map_some]
      rw [Subscription.publish, if_pos ⟨hid, hopen⟩]
    | @drained id' before hbefore =>
      cases hnamed
      rw [hslot] at hbefore
      cases hbefore
      refine ⟨{ slot with outbox := [] }, x, ⟨?_, hx, hid, hopen⟩, .done x, rfl⟩
      rw [Store.slot?_put, if_pos rfl]
    | subscribed =>
      obtain ⟨hplace, -⟩ := List.getElem?_eq_some_iff.1 hx
      refine ⟨slot, x, ⟨hslot, ?_, hid, hopen⟩, .done x, rfl⟩
      rw [List.getElem?_append_left hplace, hx]
  · have hupdated : c.updated? ≠ some id := fun h => hnamed (Command.session?_of_updated? h newId)
    rw [published?_eq_none hupdated]
    exact ⟨slot, x, ⟨(h.slot?_eq hnamed).trans hslot,
      h.subscription_eq (by rw [hid]; exact hnamed) hx, hid, hopen⟩, .done x, rfl⟩

theorem follows_perform (hs : s.Follower id place slot x) {call : ServiceCall}
    (hcall : call.replaces id = false) (hstays : call ≠ .leave place) :
    ∃ slot' y, (s.perform call).Follower id place slot' y ∧
      Follows x (streamChange? id place s call).toList y ∧
      slot'.snapshot = (views (streamChange? id place s call).toList).getLastD slot.snapshot := by
  cases call with
  | run newId c => exact (s.ran newId c).follows hs hcall
  | read place' =>
    obtain ⟨hslot, hx, hid, hopen⟩ := hs
    by_cases hsame : place' = place
    · subst hsame
      obtain ⟨hplace, -⟩ := List.getElem?_eq_some_iff.1 hx
      have hread : s.store.read place' = (some (x.take.1, x.isOpen),
          { s.store with subscriptions := s.store.subscriptions.set place' x.take.2 }) := by
        rw [Store.read, hx]
      have hentry : streamChange? id place' s (.read place') = some (.read x.take.1) := by
        rw [streamChange?, if_pos rfl, hread, Option.map_some]
      rw [hentry]
      refine ⟨slot, x.take.2, ⟨(slot?_read place').trans hslot, ?_, hid, hopen⟩, .read (.done _),
        rfl⟩
      rw [perform, hread, List.getElem?_set, if_pos rfl, if_pos hplace]
    · rw [streamChange?, if_neg hsame]
      refine ⟨slot, x, ⟨(slot?_read place').trans hslot, ?_, hid, hopen⟩, .done x, rfl⟩
      rw [perform, Store.read]
      split
      · exact hx
      · rw [List.getElem?_set_ne hsame, hx]
  | leave place' =>
    obtain ⟨hslot, hx, hid, hopen⟩ := hs
    refine ⟨slot, x, ⟨hslot, ?_, hid, hopen⟩, .done x, rfl⟩
    have hne : place' ≠ place := fun heq => hstays (heq ▸ rfl)
    rw [perform, Store.cancel, List.getElem?_modify_ne _ _ hne, hx]

/-- As long as a session is not replaced and its subscriber does not leave, calls bring their
history to the subscription, and the session shows the view that was published last. -/
theorem follows_performAll (hs : s.Follower id place slot x) {calls : List ServiceCall}
    (hcalls : ∀ call ∈ calls, call.replaces id = false ∧ call ≠ .leave place) :
    ∃ slot' y, (s.performAll calls).Follower id place slot' y ∧
      Follows x (history (streamChange? id place) s calls) y ∧
      slot'.snapshot =
        (views (history (streamChange? id place) s calls)).getLastD slot.snapshot := by
  induction calls generalizing s slot x with
  | nil => exact ⟨slot, x, hs, .done x, rfl⟩
  | cons call calls ih =>
    obtain ⟨hcall, hstays⟩ := hcalls call List.mem_cons_self
    obtain ⟨middle, y, hmiddle, hfirst, hshown⟩ := follows_perform hs hcall hstays
    obtain ⟨last, z, hlast, hlater, hshown'⟩ :=
      ih hmiddle fun call' hcall' => hcalls call' (List.mem_cons_of_mem _ hcall')
    refine ⟨last, z, hlast, hfirst.append hlater, ?_⟩
    rw [hshown', hshown, history, views_append, List.getLastD_eq_getLast?,
      List.getLastD_eq_getLast?, List.getLastD_eq_getLast?, List.getLast?_append, Option.getD_or]

/-- A subscription is to a session that is there, and starts with the view of that session. -/
theorem follower_of_run_stream (h : (s.run newId (.stream id)).1 = .ok (.subscribed place)) :
    ∃ slot, s.store.slot? id = some slot ∧
      (s.run newId (.stream id)).2.Follower id place slot (.start id slot.snapshot) := by
  simp only [run, Store.subscribe] at h ⊢
  cases hslot : s.store.slot? id with
  | none =>
    rw [Store.find_of_none hslot] at h
    cases h
  | some slot =>
    rw [Store.find_of_some hslot] at h ⊢
    cases h
    exact ⟨slot, rfl, hslot, by simp, rfl, rfl⟩

/-- Whatever happens after a subscription to a session, until the session is replaced or the
subscriber leaves: the readings give the view at the start, and then the views that the session
showed after each change that succeeded, once and in order; but of those between two readings only
the last `Subscription.capacity`, so all of them when there are never more. What a change published
last is what the session shows, so there is none that is not published. -/
theorem stream_complete (s : Service) {newId id : String} {place : Nat}
    (hsubscribed : (s.run newId (.stream id)).1 = .ok (.subscribed place))
    {calls : List ServiceCall} (hcalls : ∀ call ∈ calls, call.replaces id = false)
    (hstays : .leave place ∉ calls) :
    let start := (s.run newId (.stream id)).2
    let t := start.performAll calls
    let entries := history (streamChange? id place) start calls
    ∃ before after left, s.store.slot? id = some before ∧ t.store.slot? id = some after ∧
      (t.store.read place).1 = some (left, true) ∧
      (∃ first later, rounds [] entries = first :: later ∧ readings entries ++ [left] =
        (before.snapshot :: first.rtake Subscription.capacity) ::
          later.map (·.rtake Subscription.capacity)) ∧
      ((∀ round ∈ rounds [] entries, round.length ≤ Subscription.capacity) →
        (readings entries).flatten ++ left = before.snapshot :: views entries) ∧
      after.snapshot = (views entries).getLastD before.snapshot ∧
      ∀ newId, (t.run newId (.view id)).1 = .ok (.shown after.snapshot) := by
  intro start t entries
  obtain ⟨before, hbefore, hstart⟩ := follower_of_run_stream hsubscribed
  obtain ⟨after, x, hafter, hfollows, hshown⟩ := follows_performAll hstart fun call hcall =>
    ⟨hcalls call hcall, fun heq => hstays (heq ▸ hcall)⟩
  have hread : (t.store.read place).1 = some (x.take.1, true) := by
    rw [Store.read, hafter.subscription_eq, ← hafter.isOpen]
  refine ⟨before, after, x.take.1, hbefore, hafter.slot_eq, hread, hfollows.readings_append rfl,
    hfollows.flatten_readings, hshown, fun newId => ?_⟩
  rw [run, Store.find_of_some hafter.slot_eq, Except.map]

/-- Among calls to two sessions, some of them refused, a subscriber to one of them reads once. What
it reads then and what it may read in the end are the view at the start and the views after an
event, a loss of the connection and the beginning of a run. -/
theorem stream_complete_beside_other_session :
    let run := ServiceCall.run "t"
    let calls := [
      run (.select "s" "r:a:1"), run (.ingest "s" [(Event.flowStart "r" none none).toJson]),
      .read 0, run (.create "w" none none), run (.connect "t" false none), run (.outbox "s"),
      run (.connect "s" false (some "gone")), run (.control "s" (.run .null))]
    let s := ((new .standard .missing).run "s" (.create "v" none none)).2
    let t := (s.run "" (.stream "s")).2.performAll calls
    let entries := history (streamChange? "s" 0) (s.run "" (.stream "s")).2 calls
    let shown := fun view : Snapshot =>
      (view.view.eventCount, view.connection.connected, view.generation)
    (s.run "" (.stream "s")).1 = .ok (.subscribed 0) ∧
      (∀ call ∈ calls, call.replaces "s" = false) ∧ .leave 0 ∉ calls ∧
      (∀ round ∈ rounds [] entries, round.length ≤ Subscription.capacity) ∧
      (readings entries).map List.length = [2] ∧
      ∃ left after, (t.store.read 0).1 = some (left, true) ∧ t.store.slot? "s" = some after ∧
        ((readings entries).flatten ++ left).map shown =
          [(0, true, 1), (1, true, 1), (1, false, 1), (0, false, 2)] ∧
        shown after.snapshot = (0, false, 2) := by
  intro run calls s t entries shown
  have hsubscribed : (s.run "" (.stream "s")).1 = .ok (.subscribed 0) := rfl
  have hcalls : ∀ call ∈ calls, call.replaces "s" = false := by decide +kernel
  have hstays : .leave 0 ∉ calls := by simp [calls, run]
  have hshort : ∀ round ∈ rounds [] entries, round.length ≤ Subscription.capacity := by
    have hlengths : ((rounds [] entries).map List.length).all (· ≤ Subscription.capacity) = true :=
      by decide +kernel
    exact fun round hround =>
      of_decide_eq_true (List.all_eq_true.1 hlengths _ (List.mem_map_of_mem hround))
  have hlengths : (readings entries).map List.length = [2] := by decide +kernel
  have hstart : (s.store.slot? "s").map (fun slot => shown slot.snapshot) = some (0, true, 1) := by
    decide +kernel
  have hviews : (views entries).map shown = [(1, true, 1), (1, false, 1), (0, false, 2)] := by
    decide +kernel
  obtain ⟨before, after, left, hbefore, hafter, hread, -, hheard, hlast, -⟩ :=
    stream_complete s hsubscribed hcalls hstays
  rw [hbefore, Option.map_some, Option.some.injEq] at hstart
  refine ⟨hsubscribed, hcalls, hstays, hshort, hlengths, left, after, hread, hafter, ?_, ?_⟩
  · rw [hheard hshort, List.map_cons, hstart, hviews]
  · have hmap : shown after.snapshot =
        ((views entries).map shown).getLastD (shown before.snapshot) := by
      rw [hlast, List.getLastD_eq_getLast?, List.getLastD_eq_getLast?, List.getLast?_map,
        Option.getD_map]
    rw [hmap, hviews]
    rfl

/-- When too much is published before it is read, the oldest views are lost, but for the one at the
start. -/
example :
    let s := ((new .standard .missing).run "s" (.create "v" none none)).2
    let t := (s.run "" (.stream "s")).2.performAll
      (List.replicate 70 (.run "" (.connect "s" true none)))
    (t.store.read 0).1.map (fun reading => reading.1.length) = some 65 := by
  decide +kernel

end Service

end RunWatch
