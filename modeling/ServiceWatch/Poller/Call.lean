import ServiceWatch.Failure
import ServiceWatch.Net.Address
import ServiceWatch.Poller.Lifecycle
import ServiceWatch.Poller.Notification
import ServiceWatch.Poller.PollerConfiguration

/-!
Calls of a coordinator as trees of steps. A step asks a collaborator, fires a change, tells a
listener about it, looks at the coordinator's memory and changes it, or takes or gives back the guard
that keeps calls apart. What the steps do is up to whoever runs the tree; several trees can be run in
turns.
-/
namespace ServiceWatch.Poller

structure HostDetails where
  systemName : Option String
  systemVersion : Option String
  architecture : String
  address : Address
  hostName : Option String
  deriving DecidableEq

/-- The details by the names under which the backend takes them. -/
def HostDetails.table (d : HostDetails) : Table String String :=
  .ofList <|
    (d.systemName.map (("os.name", ·))).toList ++ (d.systemVersion.map (("os.version", ·))).toList ++
    [("os.arch", d.architecture), ("host.address", d.address.text),
      ("host.name", d.hostName.getD "localhost")]

inductive Request where
  | loadIdentity
  | storeIdentity (id : String)
  | registerAt (location : String)
  | hostDetails
  | announce (id : String) (details : HostDetails)
  | fetchLocators (context : DistributionContext)
  | installLocators (locators : List ServiceMonitorLocator)
  | fetchConfiguration (id : String)
  | alignClock (time : Timestamp)
  | prepare (service : PolledService)
  | poll (service : PolledService)
  | fetchName (id : String)
  deriving DecidableEq

abbrev Request.Answer : Request → Type
  | loadIdentity => Except IdentityFault (Option String)
  | storeIdentity _ => Except Failure Unit
  | registerAt _ => Except Failure String
  | hostDetails => HostDetails
  | announce _ _ => Except Failure Unit
  | fetchLocators _ => Except Failure (List ServiceMonitorLocator)
  | installLocators _ => Unit
  | fetchConfiguration _ => Except Failure PollerConfiguration
  | alignClock _ => Unit
  | prepare _ => Except Failure Unit
  | poll _ => Except Failure (Option PollStatus)
  | fetchName _ => Except Failure String

/-- What a coordinator remembers between its calls. -/
structure Memory where
  state : State := .initial
  /-- The configuration that the last scan pass fetched. -/
  configuration : Option PollerConfiguration := none
  listeners : Listeners := {}
  deriving DecidableEq

inductive Call (α : Type) where
  | done (result : α)
  | ask (request : Request) (next : request.Answer → Call α)
  /-- Tells everybody about a change who listens at this time. -/
  | fire (change : Change) (next : Call α)
  | tell (listener : ListenerId) (change : Change) (next : Call α)
  /-- Changes the memory and goes on with what it was before. -/
  | access (update : Memory → Memory) (next : Memory → Call α)
  /-- Waits until no other call holds the guard, and takes it. -/
  | enter (next : Call α)
  /-- Gives the guard back. -/
  | leave (next : Call α)

namespace Call

variable {α β : Type}

/-- One call, and behind it another one that depends on its result. -/
def bind : Call α → (α → Call β) → Call β
  | done a, f => f a
  | ask r next, f => ask r fun x => (next x).bind f
  | fire c next, f => fire c (next.bind f)
  | tell l c next, f => tell l c (next.bind f)
  | access u next, f => access u fun m => (next m).bind f
  | enter next, f => enter (next.bind f)
  | leave next, f => leave (next.bind f)

instance : Monad Call where
  pure := done
  bind := bind

def request (r : Request) : Call r.Answer := ask r done

def tellAll (change : Change) (next : Call α) : List ListenerId → Call α
  | [] => next
  | l :: ls => tell l change (tellAll change next ls)

def remembered : Call Memory := access id done

/-- A call that no other guarded one can interrupt. -/
def guarded (t : Call α) : Call α := enter (t.bind fun a => leave (done a))

structure Handler (m : Type → Type) where
  ask : (r : Request) → m r.Answer
  tell : ListenerId → Change → m Unit
  /-- Changes the memory and gives what it was before. -/
  access : (Memory → Memory) → m Memory

/-- Runs a call from its first step to its last one, with nothing in between. -/
def run {m : Type → Type} [Monad m] (h : Handler m) : Call α → m α
  | done a => pure a
  | ask r next => do (next (← h.ask r)).run h
  | fire c next => do
    let memory ← h.access id
    memory.listeners.ids.forM fun l => h.tell l c
    next.run h
  | tell l c next => do h.tell l c; next.run h
  | access u next => do (next (← h.access u)).run h
  | enter next => next.run h
  | leave next => next.run h

end Call

end ServiceWatch.Poller
