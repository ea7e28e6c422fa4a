import RunWatch.Artifact
import RunWatch.Session
import RunWatch.Wire.Event

/-!
# Faults of the service

Why a request that was understood is not answered, with the status and the wording of the answer.
-/

namespace RunWatch

/-- Why a request is not answered. -/
inductive ServiceFault where
  | badRequest (reason : String)
  | notFound (reason : String)
  | event (fault : EventFault)
  | session (fault : SessionFault)
  | artifact (fault : ArtifactFault)
  | internal (reason : String)
  deriving DecidableEq

namespace ServiceFault

/-- No session has an identifier. -/
def sessionNotFound (id : String) : ServiceFault := notFound ("Session " ++ id ++ " not found")

/-- No step has an identifier. -/
def stepNotFound (id : String) : ServiceFault := notFound ("Step " ++ id ++ " not found")

/-- A session is to watch nothing. -/
def emptyTarget : ServiceFault := badRequest "target must not be empty"

/-- The status of the answer. -/
def status : ServiceFault → Nat
  | badRequest _ | event _ => 400
  | notFound _ => 404
  | session _ => 409
  | artifact _ => 502
  | internal _ => 500

/-- The fault in words. -/
def message : ServiceFault → String
  | badRequest reason | notFound reason | internal reason => reason
  | event fault => "Event error: " ++ fault.message
  | session fault => "Session error: " ++ fault.message
  | artifact fault => "Artifact error: " ++ fault.message

/-- The body of the answer. -/
def toJson (fault : ServiceFault) : Json := .ofMembers [("error", .string fault.message)]

end ServiceFault

end RunWatch
