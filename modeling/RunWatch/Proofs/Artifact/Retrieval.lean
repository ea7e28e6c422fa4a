import Mathlib.Order.Bounds.Basic
import RunWatch.Artifact

/-!
# Retrieving artifacts

How often a runtime is asked for an artifact, whatever it replies. The requests go on until a reply
is not transient (`RuntimeReply.IsTransient`) or none is left, and the last reply says what was
found (`RuntimeReply.Says`). The number of the last request is the least one where either happens,
for every infinite sequence of replies (`ArtifactClient.retrieve_stops`).
-/

namespace RunWatch

/-! ### Calls that are made again -/

section

variable {ε α : Type} {isRetryable : ε → Bool} {call : Nat → Except ε α}

/-- Whether an outcome is a failure that is worth another try. -/
def IsRetried (isRetryable : ε → Bool) (outcome : Except ε α) : Prop :=
  ∃ e, outcome = .error e ∧ isRetryable e = true

theorem retryFrom_succ_of_isRetried {left n : Nat} (h : IsRetried isRetryable (call n)) :
    retryFrom isRetryable call (left + 1) n = retryFrom isRetryable call left (n + 1) := by
  obtain ⟨e, hcall, he⟩ := h
  simp only [retryFrom, hcall, he, if_true]

theorem retryFrom_of_not_isRetried {left n : Nat} (h : ¬ IsRetried isRetryable (call n)) :
    retryFrom isRetryable call left n = (call n, n) := by
  cases left with
  | zero => rfl
  | succ left =>
    rw [retryFrom]
    cases hcall : call n with
    | ok a => rfl
    | error e =>
      have he : ¬ isRetryable e = true := fun he => h ⟨e, hcall, he⟩
      simp only [if_neg he]

variable (isRetryable call) in
/-- The last call is the first one that is not made again, or else the last one allowed. -/
theorem exists_isLeast_retryFrom (left n : Nat) :
    ∃ k, IsLeast {j | n ≤ j ∧ (j = n + left ∨ ¬ IsRetried isRetryable (call j))} k ∧
      retryFrom isRetryable call left n = (call k, k) := by
  induction left generalizing n with
  | zero => exact ⟨n, ⟨⟨Nat.le_refl n, .inl rfl⟩, fun j hj => hj.1⟩, rfl⟩
  | succ left ih =>
    by_cases hagain : IsRetried isRetryable (call n)
    · obtain ⟨k, ⟨⟨hnk, hk⟩, hleast⟩, hretry⟩ := ih (n + 1)
      rw [retryFrom_succ_of_isRetried hagain]
      refine ⟨k, ⟨⟨Nat.le_of_succ_le hnk, hk.imp_left fun h => by omega⟩, fun j hj => ?_⟩, hretry⟩
      obtain ⟨hnj, hj⟩ := hj
      -- The call number `n` is made again, so it is none of those where the calls may stop.
      have hne : j ≠ n := by
        rintro rfl
        exact hj.elim (fun h => by omega) fun h => h hagain
      exact hleast ⟨by omega, hj.imp_left fun h => by omega⟩
    · rw [retryFrom_of_not_isRetried hagain]
      exact ⟨n, ⟨⟨Nat.le_refl n, .inr hagain⟩, fun j hj => hj.1⟩, rfl⟩

variable (isRetryable call) in
theorem exists_isLeast_retry (most : Nat) :
    ∃ k, IsLeast {n | n = most ∨ ¬ IsRetried isRetryable (call n)} k ∧
      retry most isRetryable call = ⟨call k, k + 1⟩ := by
  obtain ⟨k, hleast, hretry⟩ := exists_isLeast_retryFrom isRetryable call most 0
  simp only [Nat.zero_le, Nat.zero_add, true_and] at hleast
  exact ⟨k, hleast, by rw [retry, hretry]⟩

end

/-! ### Replies -/

namespace RuntimeReply

/-- The replies after which it is worth to ask again: none at all, or a fault of the runtime. -/
inductive IsTransient : RuntimeReply → Prop where
  | unreachable (reason : String) : IsTransient (.unreachable reason)
  | failed {status : Nat} (h : 500 ≤ status) (body : String) : IsTransient (.answer status body)

/-- What a reply says of an artifact: that there is none, that this is it, or why that is not
known. -/
inductive Says : RuntimeReply → Except ArtifactFault (Option Artifact) → Prop where
  | unreachable (reason : String) : Says (.unreachable reason) (.error (.request reason))
  | missing (body : String) : Says (.answer 404 body) (.ok none)
  | refused {status : Nat} (hne : status ≠ 404) (h : status < 200 ∨ 300 ≤ status) (body : String) :
      Says (.answer status body) (.error (.status status))
  | found {status : Nat} (hge : 200 ≤ status) (hlt : status < 300) {body : String} {a : Artifact}
      (h : Artifact.parse body = .ok a) : Says (.answer status body) (.ok (some a))
  | unreadable {status : Nat} (hge : 200 ≤ status) (hlt : status < 300) {body : String}
      {fault : DocumentFault} (h : Artifact.parse body = .error fault) :
      Says (.answer status body) (.error (.invalidResponse "error decoding response body"))

theorem outcome_answer (status : Nat) (body : String) : (answer status body).outcome =
    if status = 404 then .ok none
    else if 200 ≤ status ∧ status < 300 then
      match Artifact.parse body with
      | .ok a => .ok (some a)
      | .error _ => .error (.invalidResponse "error decoding response body")
    else .error (.status status) := rfl

theorem outcome_of_says {reply : RuntimeReply} {outcome : Except ArtifactFault (Option Artifact)}
    (h : reply.Says outcome) : reply.outcome = outcome := by
  cases h with
  | unreachable reason => rfl
  | missing body => rfl
  | refused hne h body => rw [outcome_answer, if_neg hne, if_neg (by omega)]
  | found hge hlt h => rw [outcome_answer, if_neg (by omega), if_pos ⟨hge, hlt⟩, h]
  | unreadable hge hlt h => rw [outcome_answer, if_neg (by omega), if_pos ⟨hge, hlt⟩, h]

theorem says_outcome (reply : RuntimeReply) : reply.Says reply.outcome := by
  cases reply with
  | unreachable reason => exact .unreachable reason
  | answer status body =>
    rw [outcome_answer]
    split
    · next hmissing =>
      rw [hmissing]
      exact .missing body
    · next hne =>
      split
      · next hsuccess =>
        cases hparse : Artifact.parse body with
        | ok a => exact .found hsuccess.1 hsuccess.2 hparse
        | error fault => exact .unreadable hsuccess.1 hsuccess.2 hparse
      · next hrefused => exact .refused hne (by omega) body

theorem outcome_eq_iff {reply : RuntimeReply} {outcome : Except ArtifactFault (Option Artifact)} :
    reply.outcome = outcome ↔ reply.Says outcome :=
  ⟨fun h => h ▸ reply.says_outcome, outcome_of_says⟩

theorem isRetried_outcome_iff (reply : RuntimeReply) :
    IsRetried ArtifactFault.isRetryable reply.outcome ↔ reply.IsTransient := by
  constructor
  · rintro ⟨e, houtcome, he⟩
    cases outcome_eq_iff.1 houtcome with
    | unreachable reason => exact .unreachable reason
    | refused hne h body => exact .failed (of_decide_eq_true he) body
    | unreadable hge hlt h => cases he
  · intro h
    cases h with
    | unreachable reason => exact ⟨_, rfl, rfl⟩
    | failed h body =>
      exact ⟨_, outcome_of_says (.refused (by omega) (.inr (by omega)) body), decide_eq_true h⟩

end RuntimeReply

/-! ### Requests -/

namespace ArtifactClient

variable {c : ArtifactClient}

theorem exists_urlFor {u : Url} (h : Url.parse c.base = .ok u) (id : String) :
    ∃ v, c.urlFor id = .ok v := by
  rw [urlFor, h]
  exact ⟨_, rfl⟩

theorem urlFor_of_fault {fault : UrlFault} (h : Url.parse c.base = .error fault) (id : String) :
    c.urlFor id = .error (.invalidUrl (fault.describe c.base)) := by
  rw [urlFor, h]

/-- The runtime is asked until a reply is not transient or all requests are made, and the last reply
says what is retrieved; without a valid address it is not asked. -/
theorem retrieve_stops (c : ArtifactClient) (replies : Url → Nat → RuntimeReply) (id : String) :
    (∀ u, Url.parse c.base = .ok u → ∃ v k, c.urlFor id = .ok v ∧
      IsLeast {n | n = c.retries ∨ ¬ (replies v n).IsTransient} k ∧
      (c.retrieve replies id).calls = k + 1 ∧
      ∀ outcome, (c.retrieve replies id).outcome = outcome ↔ (replies v k).Says outcome) ∧
    ∀ fault, Url.parse c.base = .error fault →
      c.retrieve replies id = ⟨.error (.invalidUrl (fault.describe c.base)), 0⟩ := by
  constructor
  · intro u hu
    obtain ⟨v, hv⟩ := exists_urlFor hu id
    obtain ⟨k, hleast, hretry⟩ := exists_isLeast_retry ArtifactFault.isRetryable
      (fun n => (replies v n).outcome) c.retries
    simp only [RuntimeReply.isRetried_outcome_iff] at hleast
    refine ⟨v, k, hv, hleast, ?_, fun outcome => ?_⟩
    · simp only [retrieve, hv, hretry]
    · simp only [retrieve, hv, hretry, RuntimeReply.outcome_eq_iff]
  · intro fault hfault
    rw [retrieve, urlFor_of_fault hfault]

/-- A runtime that fails and is then not reached, before it replies with the artifact, with a body
that is none, or that it does not know the artifact. -/
theorem retrieve_stops_of_slow_runtime :
    let c := new "http://runtime:9000/" 5
    let replies (last : RuntimeReply) : Url → Nat → RuntimeReply := fun _ n =>
      if n = 0 then .answer 503 "" else if n = 1 then .unreachable "reset" else last
    let body := "\x7b\"artifact_id\": \"a\", \"payload\": [true]\x7d"
    let unreadable := ArtifactFault.invalidResponse "error decoding response body"
    (∃ u, Url.parse c.base = .ok u) ∧
      c.retrieve (replies (.answer 200 body)) "a" = ⟨.ok (some ⟨"a", .array [.bool true]⟩), 3⟩ ∧
      c.retrieve (replies (.answer 200 "not json")) "a" = ⟨.error unreadable, 3⟩ ∧
      c.retrieve (replies (.answer 200 "\x7b\x7d")) "a" = ⟨.error unreadable, 3⟩ ∧
      c.retrieve (replies (.answer 404 "")) "a" = ⟨.ok none, 3⟩ := by
  intro c replies body unreadable
  obtain ⟨u, hu⟩ : ∃ u, Url.parse c.base = .ok u := by
    have hok : (Url.parse c.base).isOk = true := by decide +kernel
    cases hparse : Url.parse c.base with
    | ok u => exact ⟨u, rfl⟩
    | error fault => simp [hparse, Except.isOk, Except.toBool] at hok
  have hlast : ∀ {status body outcome}, status < 500 →
      (RuntimeReply.answer status body).Says outcome →
        c.retrieve (replies (.answer status body)) "a" = ⟨outcome, 3⟩ := by
    intro status body outcome hstatus hsays
    obtain ⟨v, k, -, hleast, hcalls, houtcome⟩ :=
      (retrieve_stops c (replies (.answer status body)) "a").1 u hu
    have htwo : IsLeast
        {n | n = c.retries ∨ ¬ (replies (.answer status body) v n).IsTransient} 2 := by
      refine ⟨.inr fun h => ?_, fun n hn => ?_⟩
      · have hfailed : (RuntimeReply.answer status body).IsTransient := h
        cases hfailed with
        | failed h => omega
      · by_contra hlt
        have hearly : n = 0 ∨ n = 1 := by omega
        rcases hearly with rfl | rfl
        · exact hn.elim (fun h => by cases h) fun h => h (.failed (by decide) "")
        · exact hn.elim (fun h => by cases h) fun h => h (.unreachable "reset")
    obtain rfl : k = 2 := hleast.unique htwo
    have hsaid := (houtcome outcome).2 hsays
    calc c.retrieve (replies (.answer status body)) "a"
      _ = ⟨(c.retrieve (replies (.answer status body)) "a").outcome,
            (c.retrieve (replies (.answer status body)) "a").calls⟩ := rfl
      _ = ⟨outcome, 3⟩ := by rw [hsaid, hcalls]
  have hbody : Artifact.parse body = .ok ⟨"a", .array [.bool true]⟩ := by decide +kernel
  have hgarbled : Artifact.parse "not json" = .error .malformed := by decide +kernel
  have hbare : Artifact.parse "\x7b\x7d" = .error .misshapen := by decide +kernel
  have hge : 200 ≤ 200 := Nat.le_refl 200
  have hlt : 200 < 300 := by decide
  exact ⟨⟨u, hu⟩, hlast (by decide) (.found hge hlt hbody),
    hlast (by decide) (.unreadable hge hlt hgarbled), hlast (by decide) (.unreadable hge hlt hbare),
    hlast (by decide) (.missing "")⟩

end ArtifactClient

end RunWatch
