import RunWatch.Json.Basic
import RunWatch.Text.Blank

/-!
# Metrics of a step

Duration, token counts and cost, as far as they were reported.

* `Metrics.ofDetails?` finds them in the details of a completion: token counts at the top or in an
  object of usage, a duration in milliseconds or in seconds.
* `mergeMetrics` joins two reports on the same step: the one with the longer duration has the say.
-/

namespace RunWatch

/-- What was measured of a step. -/
structure Metrics where
  durationMs : Option Binary64
  inputTokens : Option Nat
  outputTokens : Option Nat
  totalTokens : Option Nat
  cost : Option Binary64
  deriving DecidableEq

namespace Metrics

/-- Metrics without any field. -/
def empty : Metrics := ⟨none, none, none, none, none⟩

instance : Inhabited Metrics := ⟨empty⟩

/-- Whether no field is there. -/
def isEmpty (m : Metrics) : Bool :=
  m.durationMs.isNone && m.inputTokens.isNone && m.outputTokens.isNone && m.totalTokens.isNone &&
    m.cost.isNone

/-- The metrics with positive zero for every negative zero. -/
def withoutSignedZeros (m : Metrics) : Metrics :=
  { m with
    durationMs := m.durationMs.map Binary64.withoutSignedZero
    cost := m.cost.map Binary64.withoutSignedZero }

/-- The metrics, unless they are empty. -/
def full? (m : Metrics) : Option Metrics := if m.isEmpty then none else some m

/-! ### Reading details -/

/-- The largest count. -/
def mostCount : Nat := mostWord64

/-- A number as a count: an integer without a minus sign, or else a number that is not negative, its
fraction dropped and the largest count for everything above. -/
def countOf? (v : Json) : Option Nat :=
  v.toCount?.or ((v.toBinary64?.filter fun x => 0 ≤ x.key).map fun x =>
    min x.truncatedMagnitude mostCount)

/-- The object that holds token counts beside the top level: that under `usage`, and that under
`tokens` where there is no `usage`. -/
def nested? (details : Json) : Option Json :=
  ((details.get? "usage").or (details.get? "tokens")).filter fun v => v.toMembers?.isSome

/-- The first count under some keys of a value. -/
def countUnder? (v : Json) (keys : List String) : Option Nat :=
  keys.findSome? fun key => (v.get? key).bind countOf?

/-- The token count under some keys: at the top, or else in the object of usage. -/
def tokensUnder? (details : Json) (keys : List String) : Option Nat :=
  (countUnder? details keys).or ((nested? details).bind fun v => countUnder? v keys)

/-- The duration in milliseconds: as given, or else from one in seconds. -/
def durationOf? (details : Json) : Option Binary64 :=
  ((details.get? "duration_ms").bind Json.toBinary64?).or
    (((details.get? "duration").bind Json.toBinary64?).map fun s => s.scale 1000 1)

/-- The metrics in the details of a completion; `none` when there are none. -/
def ofDetails? (details : Json) : Option Metrics :=
  Metrics.full? {
    durationMs := durationOf? details
    inputTokens := tokensUnder? details ["input_tokens", "prompt_tokens"]
    outputTokens := tokensUnder? details ["output_tokens", "completion_tokens"]
    totalTokens := tokensUnder? details ["total_tokens"]
    cost := (details.get? "cost").bind Json.toBinary64? }

/-! ### Merging -/

/-- Whether one duration is longer than another; a missing one is shorter than all others. -/
def longer : Option Binary64 → Option Binary64 → Bool
  | none, _ => false
  | some x, none => decide ((Binary64.ofRank true Binary64.infinityRank).key < x.key)
  | some x, some y => y.less x

/-- The metrics with what they lack taken from others. -/
def orElse (m other : Metrics) : Metrics where
  durationMs := m.durationMs.or other.durationMs
  inputTokens := m.inputTokens.or other.inputTokens
  outputTokens := m.outputTokens.or other.outputTokens
  totalTokens := m.totalTokens.or other.totalTokens
  cost := m.cost.or other.cost

end Metrics

/-- Joins an earlier and a later report on one step. The one with the longer duration is preferred,
the later one if neither is longer; what it lacks comes from the other. -/
def mergeMetrics (prior next : Option Metrics) : Option Metrics :=
  match prior, next with
  | none, none => none
  | some p, none => p.full?
  | none, some n => n.full?
  | some p, some n =>
    if Metrics.longer p.durationMs n.durationMs then (p.orElse n).full? else (n.orElse p).full?

/-- The provider and the model that details name. -/
def providerModel (details : Option Json) : Option String × Option String :=
  let named (key : String) := details.bind fun v => (v.get? key).bind Json.toFullText?
  (named "provider", named "model")

end RunWatch
