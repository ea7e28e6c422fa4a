import RunWatch.Service.Request
import RunWatch.Wire.Service

/-!
# Handling requests

`Service.handle` takes a request to the response, through the command that the request stands for.
A request that is no command leaves the service as it was.
-/

namespace RunWatch

/-- The response to a request for the head of an answer only: its body is empty. -/
def Response.head : Response → Response
  | .json status _ => .json status .null
  | .text status _ => .text status ""
  | .views place => .views place

/-- What came of a command, as it is sent. -/
def responseOf : Except ServiceFault Answer → Response
  | .ok answer => answer.toResponse
  | .error fault => fault.toResponse

namespace Service

/-- Handles a request that asks for a whole answer. -/
def handleWhole (s : Service) (newId : String) (r : Request) : Response × Service :=
  match r.command with
  | .error refusal => (.text refusal.status "", s)
  | .ok command =>
    let (result, s) := s.run newId command
    (responseOf result, s)

/-- Gives up the subscription of a response, if it has one. -/
def withoutViews (s : Service) : Response → Service
  | .views place => { s with store := s.store.cancel place }
  | .json .. | .text .. => s

/-- Handles a request. `newId` is the identifier of a session that is created. -/
def handle (s : Service) (newId : String) (r : Request) : Response × Service :=
  if r.isPreflight then (.text 200 "", s)
  else if r.isHead then
    let (response, s) := s.handleWhole newId r.whole
    (response.head, s.withoutViews response)
  else s.handleWhole newId r

end Service

end RunWatch
