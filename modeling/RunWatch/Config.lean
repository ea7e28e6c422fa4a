/-!
# Ledger configuration

How steps are put together from events: how deep child runs are nested, which kinds of nodes have
their repeated completions merged, and which kinds are agents, whose child runs are not inferred
from their output.
-/

namespace RunWatch

/-- The configuration of a ledger. -/
structure LedgerConfig where
  /-- The number of levels of child runs below the root run. -/
  maxDepth : Nat
  /-- Kinds of nodes whose repeated completions are merged. -/
  dedupKinds : List String
  /-- Kinds of nodes that are agents. -/
  agentKinds : List String
  deriving DecidableEq

namespace LedgerConfig

/-- The kind of an agent node. -/
def agentKind : String := "agent"

/-- The configuration without any setting. -/
def standard : LedgerConfig := ⟨3, [agentKind], [agentKind]⟩

instance : Inhabited LedgerConfig := ⟨standard⟩

/-- The configuration with another depth. -/
def withMaxDepth (c : LedgerConfig) (depth : Nat) : LedgerConfig := { c with maxDepth := depth }

/-- The configuration with one more kind to merge; a known one is not added again. -/
def withDedupKind (c : LedgerConfig) (kind : String) : LedgerConfig :=
  if c.dedupKinds.contains kind then c else { c with dedupKinds := c.dedupKinds ++ [kind] }

/-- The configuration with other kinds to merge. -/
def withDedupKinds (c : LedgerConfig) (kinds : List String) : LedgerConfig :=
  { c with dedupKinds := kinds }

/-- The configuration with other kinds of agents. -/
def withAgentKinds (c : LedgerConfig) (kinds : List String) : LedgerConfig :=
  { c with agentKinds := kinds }

/-- Whether completions of a kind are merged; those of no kind are not. -/
def isDedupKind (c : LedgerConfig) (kind : Option String) : Bool :=
  kind.any fun k => c.dedupKinds.contains k

/-- Whether a kind is that of an agent; no kind is not. -/
def isAgentKind (c : LedgerConfig) (kind : Option String) : Bool :=
  kind.any fun k => c.agentKinds.contains k

end LedgerConfig

end RunWatch
