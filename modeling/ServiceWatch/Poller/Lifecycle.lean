import ServiceWatch.Failure
import ServiceWatch.Text.Decimal

/-! The life of a poller: its states, the calls that each state accepts, and the errors that end it. -/
namespace ServiceWatch.Poller

/-- A call that only some states accept. -/
inductive Operation where
  | startUp
  | register
  | pollService
  deriving DecidableEq

def Operation.name : Operation → String
  | startUp => "initialize"
  | register => "register"
  | pollService => "poll_service"

/-- Why the settings told no identity. -/
inductive IdentityFault where
  | unreadable (failure : Failure)
  /-- Whoever was to read them did not come back. -/
  | lost (reason : String)
  deriving DecidableEq

def IdentityFault.message : IdentityFault → String
  | unreadable failure => "unable to read monitoring system id: " ++ failure.text
  | lost reason => "settings task failed: " ++ reason

/-- What can go wrong for a coordinator. -/
inductive Fault where
  /-- A collaborator is missing or of no use. -/
  | configuration (reason : String)
  /-- The backend did not register the poller. -/
  | registration (failure : Failure)
  /-- Another call of the backend failed. -/
  | backend (failure : Failure)
  /-- The check of a service could not be carried out. -/
  | check (service : UInt32) (failure : Failure)
  /-- A call came in a state that does not accept it. -/
  | illegalState (operation state : String)
  deriving DecidableEq

namespace Fault

def message : Fault → String
  | configuration reason => "invalid poller configuration: " ++ reason
  | registration failure => "unable to register: " ++ failure.text
  | backend failure => "poller backend call failed: " ++ failure.text
  | check service failure =>
    "check for service " ++ Text.Decimal.text service.toNat ++ " failed: " ++ failure.text
  | illegalState operation state => "cannot call " ++ operation ++ " in state " ++ state

/-- The texts of the failure behind an error from the outside in, if there is one. -/
def sources : Fault → List String
  | registration failure | backend failure | check _ failure => failure.chain
  | configuration _ | illegalState _ _ => []

end Fault

inductive State where
  | initial
  | registering
  | running
  /-- The end; it keeps the error that led there. -/
  | fatal (fault : Fault)
  deriving DecidableEq

namespace State

def name : State → String
  | initial => "Initial"
  | registering => "Registering"
  | running => "Running"
  | fatal _ => "FatalExceptionOccurred"

/-- The poller has an identity and has announced itself. -/
def isRegistered : State → Bool
  | running => true
  | _ => false

def isStarted : State → Bool
  | running => true
  | _ => false

/-- No state follows. -/
def isTerminal : State → Bool
  | fatal _ => true
  | _ => false

def fault? : State → Option Fault
  | fatal fault => some fault
  | _ => none

def supports : State → Operation → Bool
  | initial, .startUp => true
  | registering, .register => true
  | running, .pollService => true
  | _, _ => false

def refusal (s : State) (operation : Operation) : Fault := .illegalState operation.name s.name

end State

end ServiceWatch.Poller
