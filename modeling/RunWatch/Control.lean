import RunWatch.Json.Basic

/-!
# Control messages

Messages for the runtime of the watched workflow: to start a run, to answer a prompt, and to pause,
resume or cancel a run.
-/

namespace RunWatch

/-- What an operator does to a run. -/
inductive ControlAction where
  | pause
  | resume
  | cancel
  deriving DecidableEq

namespace ControlAction

/-- The name of an action. -/
def name : ControlAction → String
  | pause => "pause"
  | resume => "resume"
  | cancel => "cancel"

/-- All actions. -/
def all : List ControlAction := [pause, resume, cancel]

/-- The action with a name. -/
def ofName? (s : String) : Option ControlAction := all.find? fun a => a.name == s

/-- What is said of a name that no action has. -/
def unknownMessage (s : String) : String := "unknown control action: '" ++ s ++ "'"

theorem ofName?_name (a : ControlAction) : ofName? a.name = some a := by cases a <;> decide

end ControlAction

/-- A message for the runtime. -/
inductive ControlMessage where
  /-- Start a new run of the watched workflow. -/
  | run (input : Json)
  /-- Answer a prompt. -/
  | resume (response : Json)
  /-- Act on a run. -/
  | control (action : ControlAction) (runId : String)
  deriving DecidableEq

/-- Whether a message begins a new run. -/
def ControlMessage.startsRun : ControlMessage → Bool
  | .run _ => true
  | _ => false

end RunWatch
