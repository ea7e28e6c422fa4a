import RunWatch.Config
import RunWatch.Net.Address
import RunWatch.Text.Blank
import RunWatch.Text.Split

/-!
# Settings

The settings of the service, from named variables of its environment. A variable that is missing or
cannot be read leaves the standard value.
-/

namespace RunWatch

open Text

/-- The settings of the service. -/
structure Settings where
  /-- Where the service listens. -/
  address : SocketAddress
  /-- The address of the runtime, if artifacts are retrieved. -/
  runtimeUrl : Option String
  ledger : LedgerConfig
  /-- How often a request for an artifact is repeated. -/
  artifactRetries : Nat
  deriving DecidableEq

namespace Settings

/-- The settings without any variable. -/
def standard : Settings where
  address := ⟨.v4 ⟨0, 0, 0, 0⟩, 3001⟩
  runtimeUrl := none
  ledger := .standard
  artifactRetries := 2

/-- A number of at most `most` without the blanks around it. -/
def numberOf? (most : Nat) (s : String) : Option Nat := readUnsigned most (trimChars s.toList)

/-- The address of a runtime: without blanks around it, and without slashes at its end. -/
def runtimeUrlOf? (s : String) : Option String := full? (trimEndSlashes (trim s))

/-- The kinds of a list with commas. -/
def kindsOf (s : String) : List String :=
  (splitOn (· == ',') s.toList).filterMap fun part => full? (String.ofList (trimChars part))

/-- The settings of some variables. -/
def ofVariables (lookup : String → Option String) : Settings where
  address := ((lookup "FLOWLENS_ADDR").bind SocketAddress.parse?).getD standard.address
  runtimeUrl := (lookup "FLOWLENS_RUNTIME_URL").bind runtimeUrlOf?
  ledger := {
    LedgerConfig.standard with
    maxDepth := ((lookup "FLOWLENS_MAX_DEPTH").bind (numberOf? mostWord64)).getD
      LedgerConfig.standard.maxDepth
    dedupKinds := ((lookup "FLOWLENS_DEDUP_KINDS").map kindsOf).getD
      LedgerConfig.standard.dedupKinds }
  artifactRetries :=
    ((lookup "FLOWLENS_ARTIFACT_RETRIES").bind (numberOf? mostWord32)).getD
      standard.artifactRetries

end Settings

end RunWatch
