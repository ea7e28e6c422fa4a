import Mathlib.Data.List.Infix
import RunWatch.Metrics
import RunWatch.Proofs.FirstHit

/-!
# Metrics in the details of a completion

The details of a completion may hold token counts at the top level, in an object under `usage` or in
one under `tokens`, each count under one of two keys. `Metrics.Reported` says what is found when all
of these places are read in turn, and `Metrics.ofDetails?_reported_iff` to what extent it is: the
object under `tokens` is read only where there is nothing under `usage`, not even `null`.

* `Metrics.countOf?_eq_some_iff`: which values are counts.
* `Metrics.tokensUnder?_eq`, `Metrics.ofDetails?_eq`: the reader as a search through places.
-/

namespace RunWatch

/-! ### Numbers -/

namespace Binary64

theorem le_floorLog2 (num : Nat) : -1 ≤ floorLog2 num 1 := by
  have hone : Nat.log2 1 = 0 := rfl
  simp only [floorLog2, hone]
  split <;> omega

theorem rank_ofRatio_pos (negative : Bool) {num : Nat} (h : 0 < num) :
    0 < (ofRatio negative num 1).rank := by
  have hplace : -53 ≤ placeExponent num 1 := by
    have hfloor := le_floorLog2 num
    rw [placeExponent]
    omega
  have hrank : 1021 ≤ (placeExponent num 1 + 1074).toNat := by omega
  have hdigits : 1021 * leadingDigit ≤ (placeExponent num 1 + 1074).toNat * leadingDigit :=
    Nat.mul_le_mul_right _ hrank
  rw [ofRatio, if_neg (Nat.ne_of_gt h)]
  simp only [ofRank, leadingDigit, infinityRank] at hdigits ⊢
  omega

/-- No negative integer is so small that the value nearest to it is zero. -/
theorem key_ofInt_neg {n : Int} (h : n < 0) : (ofInt n).key < 0 := by
  have hpos : 0 < (ofInt n).rank := rank_ofRatio_pos _ (Int.natAbs_pos.2 (Int.ne_of_lt h))
  have hsign : (ofInt n).negative = true := by
    rw [ofInt, ofRatio]
    split <;> simp [ofRank, h]
  rw [key, if_pos hsign]
  omega

end Binary64

namespace Metrics

/-- Which number a value counts: a number that is not negative counts itself without its fraction,
and the largest count when it is larger. -/
inductive Counts : Json → Nat → Prop where
  | integer {n : WideInt} (h : 0 ≤ n.value) : Counts (.number (.integer n)) n.value.toNat
  | float {x : Binary64} (h : 0 ≤ x.key) :
      Counts (.number (.float x)) (min x.truncatedMagnitude mostCount)

theorem countOf?_integer (n : WideInt) : countOf? (.number (.integer n)) =
    if 0 ≤ n.value then some n.value.toNat else none := by
  by_cases h : 0 ≤ n.value
  · simp [countOf?, Json.toCount?, Json.Number.toCount?, h]
  · -- The integer is no count, and as a floating-point number it is negative too.
    have hkey := Binary64.key_ofInt_neg (Int.not_le.1 h)
    simpa [countOf?, Json.toCount?, Json.Number.toCount?, Json.toBinary64?,
      Json.Number.toBinary64, h] using hkey

theorem countOf?_float (x : Binary64) : countOf? (.number (.float x)) =
    if 0 ≤ x.key then some (min x.truncatedMagnitude mostCount) else none := by
  show ((some x).filter fun x => 0 ≤ x.key).map _ = _
  rw [Option.filter_some]
  by_cases h : 0 ≤ x.key <;> simp [h]

theorem countOf?_eq_some_iff (v : Json) (n : Nat) : countOf? v = some n ↔ Counts v n := by
  cases v with
  | number num =>
    cases num with
    | integer m =>
      rw [countOf?_integer, Option.ite_none_right_eq_some, Option.some.injEq]
      constructor
      · rintro ⟨hm, rfl⟩
        exact .integer hm
      · intro h
        cases h with
        | integer hm => exact ⟨hm, rfl⟩
    | float x =>
      rw [countOf?_float, Option.ite_none_right_eq_some, Option.some.injEq]
      constructor
      · rintro ⟨hx, rfl⟩
        exact .float hx
      · intro h
        cases h with
        | float hx => exact ⟨hx, rfl⟩
  | null | bool | string | array | object =>
    constructor <;> intro h <;> cases h

/-- Which measure a value gives: any number gives one. -/
inductive Measures : Json → Binary64 → Prop where
  | number (n : Json.Number) : Measures (.number n) n.toBinary64

theorem toBinary64?_eq_some_iff (v : Json) (x : Binary64) :
    v.toBinary64? = some x ↔ Measures v x := by
  cases v with
  | number n =>
    rw [Json.toBinary64?, Option.some.injEq]
    constructor
    · rintro rfl
      exact .number n
    · intro h
      cases h with
      | number => rfl
  | null | bool | string | array | object =>
    constructor <;> intro h <;> cases h

/-! ### Places -/

/-- The keys of each of the three counts. -/
def inputKeys : List String := ["input_tokens", "prompt_tokens"]

@[inherit_doc inputKeys]
def outputKeys : List String := ["output_tokens", "completion_tokens"]

@[inherit_doc inputKeys]
def totalKeys : List String := ["total_tokens"]

/-- The two objects in details that may hold counts. -/
def nestedPlaces : List Place := [["usage"], ["tokens"]]

/-- Where counts may stand: in the details themselves and in the objects in them. -/
def containers : List Place := [] :: nestedPlaces

/-- The containers that are read: of the places of objects only those up to the first where there is
something, of whatever kind. -/
def containersRead (details : Json) : List Place :=
  [] :: upTo details.at? nestedPlaces

/-- The places of a count: under each of its keys in each of some containers. -/
def countPlaces (containers : List Place) (keys : List String) : List Place :=
  containers.flatMap fun container => keys.map fun key => container ++ [key]

/-- Where a duration may stand, and how many milliseconds it is: it is given in these, or in
seconds. -/
def durationPlaces : List (String × (Binary64 → Binary64)) :=
  [("duration_ms", id), ("duration", fun s => s.scale 1000 1)]

/-- Which duration is given in such a place. -/
def Lasts (details : Json) (place : String × (Binary64 → Binary64)) (ms : Binary64) : Prop :=
  ∃ x, details.Holds Measures [place.1] x ∧ place.2 x = ms

/-- Metrics hold what stands in details, the counts being read in some containers: of each field the
first usable value, whatever stands before it. -/
structure ReadIn (containers : List Place) (details : Json) (m : Metrics) : Prop where
  durationMs : FirstHit (Lasts details) durationPlaces m.durationMs
  inputTokens :
    FirstHit (details.Holds Counts) (countPlaces containers inputKeys) m.inputTokens
  outputTokens :
    FirstHit (details.Holds Counts) (countPlaces containers outputKeys) m.outputTokens
  totalTokens :
    FirstHit (details.Holds Counts) (countPlaces containers totalKeys) m.totalTokens
  cost : FirstHit (details.Holds Measures) [["cost"]] m.cost

/-- What is reported of details when the counts are read in some containers: nothing, if no field
has a value. -/
def Reported (containers : List Place) (details : Json) (report : Option Metrics) : Prop :=
  ∃ m, ReadIn containers details m ∧ report = if m = empty then none else some m

/-- Whether some count stands only in a container that is not read. -/
def HidesTokens (details : Json) : Prop :=
  ∃ keys ∈ [inputKeys, outputKeys, totalKeys], Hidden (details.Holds Counts)
    (countPlaces (containersRead details) keys) (countPlaces containers keys)

/-! ### The search -/

section

variable {details : Json} {keys : List String} {m : Metrics}

/-- The count that a search through the places finds. -/
def countIn (containers : List Place) (details : Json) (keys : List String) : Option Nat :=
  (countPlaces containers keys).findSome? fun place => (details.at? place).bind countOf?

theorem firstHit_countPlaces_iff {containers : List Place} {found : Option Nat} :
    FirstHit (details.Holds Counts) (countPlaces containers keys) found ↔
      countIn containers details keys = found :=
  firstHit_iff (Json.bind_at?_eq_some_iff countOf?_eq_some_iff)

theorem countIn_cons (container : Place) (containers : List Place) :
    countIn (container :: containers) details keys =
      ((details.at? container).bind fun v => countUnder? v keys).or
        (countIn containers details keys) := by
  have hread : (keys.map fun key => container ++ [key]).findSome?
      (fun place => (details.at? place).bind countOf?) =
      (details.at? container).bind fun v => countUnder? v keys := by
    rw [List.findSome?_map]
    simp only [Function.comp_def, Json.at?_append, Json.at?_singleton, Option.bind_assoc]
    cases details.at? container with
    | none => simp
    | some v => rfl
  rw [countIn, countPlaces, List.flatMap_cons, List.findSome?_append, hread]
  rfl

theorem countIn_eq (containers : List Place) : countIn containers details keys =
    containers.findSome? fun container =>
      (details.at? container).bind fun v => countUnder? v keys := by
  induction containers with
  | nil => rfl
  | cons container containers ih =>
    rw [countIn_cons, ih, List.findSome?_cons]
    cases (details.at? container).bind fun v => countUnder? v keys <;> rfl

theorem countUnder?_of_no_members {v : Json} (h : v.toMembers? = none) :
    countUnder? v keys = none := by
  have hget : ∀ key, v.get? key = none := by
    cases v with
    | object ms => cases h
    | null | bool | number | string | array => exact fun _ => rfl
  simp [countUnder?, hget]

/-- The counts are searched in the containers that are read. -/
theorem tokensUnder?_eq (details : Json) (keys : List String) :
    tokensUnder? details keys = countIn (containersRead details) details keys := by
  -- What is no object holds no counts, so it need not be left out.
  have hnested : (nested? details).bind (fun v => countUnder? v keys) =
      ((details.get? "usage").or (details.get? "tokens")).bind fun v => countUnder? v keys := by
    rw [nested?]
    cases (details.get? "usage").or (details.get? "tokens") with
    | none => rfl
    | some v =>
      cases hv : v.toMembers? with
      | none => simp [Option.filter_some, hv, countUnder?_of_no_members hv]
      | some ms => simp [Option.filter_some, hv]
  have hfind : (details.get? "usage").or (details.get? "tokens") =
      nestedPlaces.findSome? details.at? := by
    rw [nestedPlaces, findSome?_pair, Json.at?_singleton, Json.at?_singleton]
  rw [tokensUnder?, hnested, hfind, bind_findSome?_eq, containersRead, countIn_cons, countIn_eq]
  rfl

/-- The metrics that searches through the places find. -/
def readIn (containers : List Place) (details : Json) : Metrics where
  durationMs := durationOf? details
  inputTokens := countIn containers details inputKeys
  outputTokens := countIn containers details outputKeys
  totalTokens := countIn containers details totalKeys
  cost := (details.get? "cost").bind Json.toBinary64?

theorem ofDetails?_eq (details : Json) :
    ofDetails? details = (readIn (containersRead details) details).full? := by
  simp only [ofDetails?, tokensUnder?_eq]
  rfl

theorem firstHit_lasts_iff {found : Option Binary64} :
    FirstHit (Lasts details) durationPlaces found ↔ durationOf? details = found := by
  have hread : ∀ (place : String × (Binary64 → Binary64)) ms,
      ((details.at? [place.1]).bind Json.toBinary64?).map place.2 = some ms ↔
        Lasts details place ms := fun place ms => by
    simp only [Option.map_eq_some_iff, Json.bind_at?_eq_some_iff toBinary64?_eq_some_iff, Lasts]
  rw [firstHit_iff hread]
  simp only [durationPlaces, durationOf?, List.findSome?_cons, Json.at?_singleton]
  cases (details.get? "duration_ms").bind Json.toBinary64? with
  | some x => rfl
  | none => cases (details.get? "duration").bind Json.toBinary64? <;> rfl

theorem firstHit_cost_iff {found : Option Binary64} :
    FirstHit (details.Holds Measures) [["cost"]] found ↔
      (details.get? "cost").bind Json.toBinary64? = found := by
  rw [Json.firstHit_singleton_iff toBinary64?_eq_some_iff, Json.at?_singleton]

theorem readIn_iff {containers : List Place} :
    ReadIn containers details m ↔ readIn containers details = m := by
  constructor
  · intro h
    rw [readIn, firstHit_lasts_iff.1 h.durationMs, firstHit_countPlaces_iff.1 h.inputTokens,
      firstHit_countPlaces_iff.1 h.outputTokens, firstHit_countPlaces_iff.1 h.totalTokens,
      firstHit_cost_iff.1 h.cost]
  · rintro rfl
    exact ⟨firstHit_lasts_iff.2 rfl, firstHit_countPlaces_iff.2 rfl,
      firstHit_countPlaces_iff.2 rfl, firstHit_countPlaces_iff.2 rfl, firstHit_cost_iff.2 rfl⟩

theorem isEmpty_iff : m.isEmpty = true ↔ m = empty := by
  obtain ⟨durationMs, inputTokens, outputTokens, totalTokens, cost⟩ := m
  simp [isEmpty, empty, and_assoc]

theorem full?_eq (m : Metrics) : m.full? = if m = empty then none else some m := by
  rw [full?]
  simp only [isEmpty_iff]

theorem reported_iff {containers : List Place} {report : Option Metrics} :
    Reported containers details report ↔ report = (readIn containers details).full? := by
  rw [full?_eq]
  constructor
  · rintro ⟨m, hm, hreport⟩
    rw [readIn_iff.1 hm, hreport]
  · intro hreport
    exact ⟨readIn containers details, readIn_iff.2 rfl, hreport⟩

theorem full?_inj {n : Metrics} : m.full? = n.full? ↔ m = n := by
  rw [full?_eq, full?_eq, ite_none_some_inj]

/-- Two readings differ at most in the counts. -/
theorem readIn_eq_iff {containers containers' : List Place} :
    readIn containers details = readIn containers' details ↔
      ∀ keys ∈ [inputKeys, outputKeys, totalKeys],
        countIn containers details keys = countIn containers' details keys := by
  simp [readIn]

theorem countPlaces_containersRead_isPrefix (details : Json) (keys : List String) :
    countPlaces (containersRead details) keys <+: countPlaces containers keys :=
  List.IsPrefix.flatMap ((List.prefix_cons_inj []).2 (upTo_isPrefix _ nestedPlaces)) _

theorem readIn_containersRead_iff : readIn (containersRead details) details =
    readIn containers details ↔ ¬ HidesTokens details := by
  have hcount (keys : List String) :
      countIn (containersRead details) details keys = countIn containers details keys ↔
        ¬ Hidden (details.Holds Counts) (countPlaces (containersRead details) keys)
          (countPlaces containers keys) :=
    findSome?_eq_iff_not_hidden (Json.bind_at?_eq_some_iff countOf?_eq_some_iff)
      (countPlaces_containersRead_isPrefix details keys)
  simp only [readIn_eq_iff, hcount, HidesTokens, not_exists, not_and]

end

/-! ### Reports -/

/-- What is reported is what stands in the containers that are read. That is what stands in all of
them, unless the only value of some count is in an object under `tokens` beside something under
`usage`. -/
theorem ofDetails?_reported_iff (details : Json) :
    Reported (containersRead details) details (ofDetails? details) ∧
      (Reported containers details (ofDetails? details) ↔ ¬ HidesTokens details) := by
  refine ⟨reported_iff.2 (ofDetails?_eq details), ?_⟩
  rw [reported_iff, ofDetails?_eq, full?_inj, readIn_containersRead_iff]

/-- A `null` under `usage` hides the counts under `tokens`. -/
theorem ofDetails?_of_null_usage :
    let details : Json :=
      .object [("tokens", .object [("input_tokens", .ofNat 5)]), ("usage", .null)]
    ofDetails? details = none ∧
      Reported containers details (some { empty with inputTokens := some 5 }) ∧
      ¬ Reported containers details (ofDetails? details) := by
  intro details
  have hread : (readIn containers details).full? = some { empty with inputTokens := some 5 } := by
    decide +kernel
  have hnone : ofDetails? details = none := by decide +kernel
  refine ⟨hnone, reported_iff.2 hread.symm, ?_⟩
  rw [reported_iff, hnone, hread]
  exact (Option.some_ne_none _).symm

end Metrics

end RunWatch
