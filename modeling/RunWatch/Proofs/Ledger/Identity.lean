import RunWatch.Proofs.Ledger.Recorded
import RunWatch.Text.Split

/-!
# The identity of steps

A step carries the place in the stream of the event that created it. These numbers rise along the
steps of a ledger, and the identifier of a step shows its number after the last colon, whatever the
names of the run and the node are.

* `Ledger.arrivals_sublist`: the numbers are places of the stream, in order and without repetition.
* `Ledger.nodup_ids`: no two steps of a ledger have the same identifier.
-/

namespace RunWatch

/-! ### Identifiers -/

namespace Text

theorem splitLast?_eq_none {mark : Char} {cs : List Char} (h : mark ∉ cs) :
    splitLast? mark cs = none := by
  induction cs with
  | nil => rfl
  | cons c rest ih =>
    rw [List.mem_cons, not_or] at h
    have hc : ¬ c = mark := fun e => h.1 e.symm
    simp [splitLast?, ih h.2, hc]

theorem splitLast?_append_cons {mark : Char} {after : List Char} (h : mark ∉ after)
    (before : List Char) : splitLast? mark (before ++ mark :: after) = some (before, after) := by
  induction before with
  | nil => simp [splitLast?, splitLast?_eq_none h]
  | cons c rest ih => simp [splitLast?, ih]

theorem colon_notMem_digitsOf (n : Nat) : ':' ∉ digitsOf n := by
  intro h
  have hdigit : ':'.isDigit = true := Nat.isDigit_of_mem_toDigits (by omega) (by omega) h
  exact absurd hdigit (by decide)

theorem digitsOf_injective : Function.Injective digitsOf := by
  intro m n h
  calc
    m = Nat.ofDigitChars 10 (digitsOf m) 0 := Nat.ofDigitChars_ten_toDigits.symm
    _ = Nat.ofDigitChars 10 (digitsOf n) 0 := by rw [h]
    _ = n := Nat.ofDigitChars_ten_toDigits

end Text

open Text in
/-- The number of a step is read from its identifier. -/
theorem splitLast?_stepId (runId nodeId : String) (arrival : Nat) :
    splitLast? ':' (stepId runId nodeId arrival).toList =
      some (runId.toList ++ ':' :: nodeId.toList, digitsOf arrival) := by
  have htext : (stepId runId nodeId arrival).toList =
      (runId.toList ++ ':' :: nodeId.toList) ++ ':' :: digitsOf arrival := by
    simp [stepId]
  rw [htext, splitLast?_append_cons (colon_notMem_digitsOf arrival)]

theorem Step.arrival_eq_of_id_eq {s t : Step} (h : s.id = t.id) : s.arrival = t.arrival := by
  have hs := splitLast?_stepId s.runId s.nodeId s.arrival
  have ht := splitLast?_stepId t.runId t.nodeId t.arrival
  rw [← Step.id, h, Step.id, ht, Option.some.injEq, Prod.mk.injEq] at hs
  exact (Text.digitsOf_injective hs.2).symm

/-! ### Numbers -/

namespace History

/-- The numbers of the steps stay, or the place of the event comes last. -/
def Numbers (place : Nat) (steps steps' : List Step) : Prop :=
  steps'.map Step.arrival = steps.map Step.arrival ∨
    steps'.map Step.arrival = steps.map Step.arrival ++ [place]

theorem Recorded.numbers {catalog : Catalog} {place : Nat} {steps steps' : List Step}
    (h : Recorded catalog place steps steps') : Numbers place steps steps' := by
  rcases h.map_eq_or (g := Step.arrival) fun s t hst => hst.arrival_eq with hsame | ⟨s, hs, rfl⟩
  · exact .inl hsame
  · exact .inr (by rw [List.map_append, List.map_singleton, hs.arrival_eq])

end History

namespace Ledger

variable (catalog : Catalog) (config : LedgerConfig) (events : List Event)

theorem arrivals_sublist :
    ((ofEvents catalog config events).steps.map Step.arrival).Sublist
      (List.range events.length) := by
  induction events using List.reverseRecOn with
  | nil => exact List.Sublist.refl []
  | append_singleton events e ih =>
    rw [List.length_append, List.length_singleton, List.range_succ]
    rcases (recorded_ofEvents catalog config events e).numbers with h | h
    · rw [h]
      exact ih.trans (List.sublist_append_left _ _)
    · rw [h]
      exact ih.append (List.Sublist.refl _)

/-- The numbers of the steps rise. -/
theorem arrivals_rise :
    (ofEvents catalog config events).steps.Pairwise fun s t => s.arrival < t.arrival :=
  List.pairwise_map.1 (List.pairwise_lt_range.sublist (arrivals_sublist catalog config events))

theorem nodup_ids : ((ofEvents catalog config events).steps.map Step.id).Nodup := by
  refine List.pairwise_map.2 ((arrivals_rise catalog config events).imp fun {s t} hlt hid => ?_)
  exact absurd (Step.arrival_eq_of_id_eq hid) (Nat.ne_of_lt hlt)

end Ledger

end RunWatch
