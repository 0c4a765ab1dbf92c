import ServiceWatch.Poller.Call

/-!
The coordinator leads a poller through its life: it registers unless there is an identity, announces
itself, runs one scan pass over all services, and hands the report to its listeners.
-/
namespace ServiceWatch.Poller

inductive Collaborator where
  | backend
  | checks
  | settings
  | clock
  deriving DecidableEq

namespace Collaborator

def name : Collaborator → String
  | backend => "poller backend"
  | checks => "poll service"
  | settings => "poller settings"
  | clock => "time adjustment"

/-- All collaborators in the order in which they are asked for. -/
def all : List Collaborator := [backend, checks, settings, clock]

end Collaborator

/-- The collaborators of a coordinator, and what its reports say about the customer. -/
structure Coordinator where
  collaborators : List Collaborator := Collaborator.all
  metadata : Table String String := ∅

/-- A call that may stop at an error. -/
abbrev Attempt (α : Type) := ExceptT Fault Call α

/-- Asks a collaborator; a failure stops the attempt. -/
def askOrStop {ε α : Type} (fault : ε → Fault) (t : Call (Except ε α)) : Attempt α := do
  match ← (t : Call (Except ε α)) with
  | .ok a => return a
  | .error failure => throw (fault failure)

def fire (change : Change) : Call Unit := .fire change (.done ())

/-- Tells about a property that holds or not, if it changed. -/
def fireIfChanged (change : Bool → Bool → Change) (old new : Bool) : Call Unit :=
  if old = new then .done () else fire (change old new)

/-- The memory with another state; a terminal state stays. -/
def Memory.moveTo (m : Memory) (state : State) : Memory :=
  if m.state.isTerminal then m else { m with state }

def moveTo (state : State) : Call Unit :=
  .access (·.moveTo state) fun before =>
    if before.state.isTerminal then .done ()
    else do
      fireIfChanged .started before.state.isStarted state.isStarted
      fireIfChanged .registered before.state.isRegistered state.isRegistered

def ensureSupported (operation : Operation) : Attempt Unit := do
  let memory ← (Call.remembered : Call Memory)
  if memory.state.supports operation then return () else throw (memory.state.refusal operation)

/-- Makes an attempt if the state accepts it; an error ends the coordinator. -/
def carryOut (operation : Operation) (attempt : Attempt Unit) (answer : Fault → Except Fault Unit) :
    Call (Except Fault Unit) := do
  match ← (ensureSupported operation).run with
  | .error fault => return .error fault
  | .ok () =>
    match ← attempt.run with
    | .error fault =>
      moveTo (.fatal fault)
      return answer fault
    | .ok () => return .ok ()

def loadIdentity : Attempt (Option String) :=
  askOrStop (fun f => .configuration f.message) (.request .loadIdentity)

/-- Fetches the services to check, and sets the clock by the backend's before any check. -/
def fetchConfiguration (id : String) : Attempt PollerConfiguration := do
  let configuration ← askOrStop .backend (.request (.fetchConfiguration id))
  (Call.request (.alignClock configuration.serverTime) : Call Unit)
  discard (Call.access (fun m => { m with configuration := some configuration }) .done : Call Memory)
  return configuration

/-- The result of the check of one service; a service need not have one. -/
def checkService (service : PolledService) : Attempt (Option PollStatus) := do
  askOrStop (.check service.id) (.request (.prepare service))
  askOrStop (.check service.id) (.request (.poll service))

def addResult (report : ScanReport) : Option PollStatus → ScanReport
  | some status => report.add status
  | none => report

/-- Checks services one after the other; at an error, the report holds the results up to there. -/
def checkAll (total : Nat) : Nat → List PolledService → ScanReport → Call (Option Fault × ScanReport)
  | _, [], report => .done (none, report)
  | completed, service :: rest, report => do
    match ← (checkService service).run with
    | .error fault => return (some fault, report)
    | .ok result =>
      let report := addResult report result
      fire (.percentageComplete ⟨completed + 1, total⟩)
      checkAll total (completed + 1) rest report

def fetchServices (id : String) : Attempt (List PolledService) := do
  let locators ← askOrStop .backend (.request (.fetchLocators .remoteMonitor))
  (Call.request (.installLocators locators) : Call Unit)
  return (← fetchConfiguration id).services

def scan (id : String) (report : ScanReport) : Call (Option Fault × ScanReport) := do
  match ← (fetchServices id).run with
  | .error fault => return (some fault, report)
  | .ok services => checkAll services.length 0 services report

namespace Coordinator

def require (c : Coordinator) (x : Collaborator) : Except Fault Unit :=
  if c.collaborators.contains x then .ok ()
  else .error (.configuration (x.name ++ " must be set for a poller coordinator"))

def requireAll (c : Coordinator) : Except Fault Unit := Collaborator.all.forM c.require

/-- A scan pass: the report is handed over also when an error ended the pass. -/
def scanPass (c : Coordinator) (id : String) : Call Unit := do
  fire (.percentageComplete .start)
  let (fault, report) ← scan id (.ofMetadata c.metadata)
  match fault with
  | some fault => moveTo (.fatal fault)
  | none => pure ()
  fire (.percentageComplete .finish)
  fire (.exitNecessary report)

/-- Announces the poller and runs the scan pass. -/
def start (c : Coordinator) (id : String) : Attempt Unit := do
  let details ← (Call.request .hostDetails : Call HostDetails)
  askOrStop .backend (.request (.announce id details))
  moveTo .running
  c.scanPass id

/-- Starts if there is an identity, and waits for registration otherwise. -/
def tryStartUp (c : Coordinator) : Attempt Unit := do
  c.requireAll
  match ← loadIdentity with
  | none => moveTo .registering
  | some id => c.start id

/-- The first call. An error ends the coordinator and is returned as well. -/
def startUp (c : Coordinator) : Call (Except Fault Unit) :=
  .guarded (carryOut .startUp c.tryStartUp .error)

/-- Registers at a location and starts, also when the identity cannot be kept. -/
def tryRegister (c : Coordinator) (location : String) : Attempt Unit := do
  c.requireAll
  let id ← askOrStop .registration (.request (.registerAt location))
  discard (Call.request (.storeIdentity id) : Call (Except Failure Unit))
  c.start id

/-- Registers a poller without an identity. An error ends the coordinator and is not returned. -/
def register (c : Coordinator) (location : String) : Call (Except Fault Unit) :=
  .guarded (carryOut .register (c.tryRegister location) fun _ => .ok ())

/-- Asks for the check of one service, which has no effect: the scan pass has checked all of them. -/
def pollService (_ : Coordinator) (_ : UInt32) : Call (Except Fault Unit) :=
  (ensureSupported .pollService).run

def monitoringSystemId (c : Coordinator) : Call (Except Fault (Option String)) :=
  (do c.require .settings; loadIdentity : Attempt (Option String)).run

/-- The name under which the backend knows the poller; it is empty for one that is not registered. -/
def monitorName (c : Coordinator) : Call (Except Fault String) :=
  (do
    let memory ← (Call.remembered : Call Memory)
    if memory.state.isRegistered then
      c.require .backend
      c.require .settings
      match ← loadIdentity with
      | none => return ""
      | some id => askOrStop .backend (.request (.fetchName id))
    else return "" : Attempt String).run

/-- The services of the configuration that was fetched last. -/
def polledServices (m : Memory) : List PolledService :=
  match m.configuration with
  | some configuration => configuration.services
  | none => []

def addListener (_ : Coordinator) : Call ListenerId :=
  .access (fun m => { m with listeners := m.listeners.add.2 }) fun m => .done m.listeners.add.1

def removeListener (_ : Coordinator) (id : ListenerId) : Call Bool :=
  .access (fun m => { m with listeners := (m.listeners.remove id).2 }) fun m =>
    .done (m.listeners.remove id).1

end Coordinator

end ServiceWatch.Poller
