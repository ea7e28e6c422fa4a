import RunWatch.Ledger
import RunWatch.Links

/-!
# The scope of a run

The runs that belong to a root run: those that can be reached from it through the links of steps, to
child runs and to runs of agents, at any depth.

`reachableRuns` visits the runs breadth first. Every run is visited once, and its links are used up
then, so the number of links left and of runs that wait goes down with every visit.
-/

namespace RunWatch

/-- A link from a run to another one. -/
structure RunLink where
  source : String
  target : String
  deriving DecidableEq

/-- The runs of a list that were not seen before, each once. -/
def newRuns (seen : List String) : List String → List String
  | [] => []
  | run :: rest =>
    if seen.contains run then newRuns seen rest else run :: newRuns (run :: seen) rest

theorem length_newRuns_le (seen runs : List String) :
    (newRuns seen runs).length ≤ runs.length := by
  induction runs generalizing seen with
  | nil => simp [newRuns]
  | cons run rest ih =>
    simp only [newRuns]
    split
    · exact Nat.le_trans (ih _) (Nat.le_succ _)
    · simpa using ih (run :: seen)

/-- The targets of the links of a run, in order. -/
def targetsOf (links : List RunLink) (run : String) : List String :=
  (links.filter fun l => l.source == run).map RunLink.target

/-- The links of all runs but one, in order. -/
def linksOfOthers (links : List RunLink) (run : String) : List RunLink :=
  links.filter fun l => !(l.source == run)

theorem length_targetsOf_add (links : List RunLink) (run : String) :
    (targetsOf links run).length + (linksOfOthers links run).length = links.length := by
  simp only [targetsOf, linksOfOthers, List.length_map]
  induction links with
  | nil => rfl
  | cons l rest ih =>
    by_cases h : l.source = run
    · simp [h]
      omega
    · simp [h]
      omega

/-- Visits the runs that wait, one after another. `seen` are the runs that wait or were visited. -/
def visitRuns (links : List RunLink) (seen waiting : List String) : List String :=
  match waiting with
  | [] => []
  | run :: waiting =>
    let found := newRuns seen (targetsOf links run)
    run :: visitRuns (linksOfOthers links run) (seen ++ found) (waiting ++ found)
  termination_by links.length + waiting.length
  decreasing_by
    have h := length_newRuns_le seen (targetsOf links run)
    have h' := length_targetsOf_add links run
    simp only [List.length_append, List.length_cons]
    omega

/-- The runs reachable from a root run, that run first. -/
def reachableRuns (links : List RunLink) (root : String) : List String :=
  visitRuns links [root] [root]

/-- The links of a step: to its child run, and to the run of its agent. -/
def stepLinks (links : Links) (config : LedgerConfig) (s : Step) : List RunLink :=
  ((links.childRunOf? config.isAgentKind s).toList ++ (links.agentRunOf? s.key).toList).map
    fun target => ⟨s.runId, target⟩

/-- The links of all steps of a ledger, in order of the steps. -/
def runLinks (ledger : Ledger) (links : Links) (config : LedgerConfig) : List RunLink :=
  ledger.steps.flatMap (stepLinks links config)

/-- The runs that belong to a root run, that run first. -/
def treeRunIds (root : String) (ledger : Ledger) (links : Links) (config : LedgerConfig) :
    List String :=
  reachableRuns (runLinks ledger links config) root

end RunWatch
