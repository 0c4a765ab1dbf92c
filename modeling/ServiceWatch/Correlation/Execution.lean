import ServiceWatch.Correlation.Correlator

/-!
A correlator among the holders of its handles: they send commands as they like, and the correlator
takes any branch that it can. What happens is kept as a list of occurrences.
-/
namespace ServiceWatch

def Command.operation : Command → Engine.Operation
  | .correlate signal => .correlate signal
  | .submit signal => .correlate signal
  | .memorySize => .memorySize
  | .stats => .stats
  | .sweep => .sweep
  | .shutdown => .sweep

namespace Correlator

/-- What a step lets others see. -/
inductive Occurrence where
  /-- A handle was opened beside another one. -/
  | opened
  /-- A handle was closed. -/
  | closed
  /-- A command came to the end of the queue. -/
  | sent (command : Command)
  /-- A command did not come into the queue, since nobody takes it from there any more. -/
  | refused (command : Command)
  /-- The timer ticked. -/
  | ticked (now : Nat) (outcome : Outcome)
  /-- The first command of the queue was taken and carried out. -/
  | carriedOut (command : Command) (now : Nat) (outcome : Outcome)
  /-- The correlator found that nothing can come up any more. -/
  | ended (now : Nat) (outcome : Outcome)

namespace Occurrence

def arrivals : Occurrence → List Command
  | .sent command => [command]
  | _ => []

def taken : Occurrence → List Command
  | .carriedOut command _ _ => [command]
  | _ => []

def outcomes : Occurrence → List Outcome
  | .ticked _ outcome => [outcome]
  | .carriedOut _ _ outcome => [outcome]
  | .ended _ outcome => [outcome]
  | _ => []

def operations : Occurrence → List (Engine.Operation × Nat)
  | .ticked now _ => [(.sweep, now)]
  | .carriedOut command now _ => [(command.operation, now)]
  | .ended now _ => [(.sweep, now)]
  | _ => []

end Occurrence

/-- One step of a holder of a handle, or one turn of the correlator. A correlator that has stopped may
leave its queue open for a while. -/
inductive Step : Correlator → Occurrence → Correlator → Prop where
  | openHandle {c : Correlator} (h : 0 < c.handles) : Step c .opened c.openHandle
  | closeHandle {c : Correlator} (h : 0 < c.handles) : Step c .closed c.closeHandle
  | send {c : Correlator} (h : 0 < c.handles) (command : Command) :
      Step c (.sent command) (c.send command)
  | refuse {c : Correlator} (h : 0 < c.handles) (stopped : c.running = false) (command : Command) :
      Step c (.refused command) c
  | tick {c c' : Correlator} {now : Nat} {outcome : Outcome}
      (h : c.turn .tick now = some (outcome, c')) : Step c (.ticked now outcome) c'
  | carryOut {c c' : Correlator} {command : Command} {queue : List Command} {now : Nat}
      {outcome : Outcome} (first : c.queue = command :: queue)
      (h : c.turn .command now = some (outcome, c')) : Step c (.carriedOut command now outcome) c'
  | ending {c c' : Correlator} {now : Nat} {outcome : Outcome}
      (h : c.turn .closed now = some (outcome, c')) : Step c (.ended now outcome) c'

/-- Steps one after the other, with what occurred. -/
inductive Run : Correlator → List Occurrence → Correlator → Prop where
  | refl (c : Correlator) : Run c [] c
  | step {c d e : Correlator} {o : Occurrence} {os : List Occurrence} (h : c.Step o d)
      (rest : d.Run os e) : Run c (o :: os) e

def arrivals (os : List Occurrence) : List Command := os.flatMap Occurrence.arrivals

def taken (os : List Occurrence) : List Command := os.flatMap Occurrence.taken

def outcomes (os : List Occurrence) : List Outcome := os.flatMap Occurrence.outcomes

def operations (os : List Occurrence) : List (Engine.Operation × Nat) :=
  os.flatMap Occurrence.operations

@[simp] theorem arrivals_cons (o : Occurrence) (os : List Occurrence) :
    arrivals (o :: os) = o.arrivals ++ arrivals os :=
  List.flatMap_cons

@[simp] theorem taken_cons (o : Occurrence) (os : List Occurrence) :
    taken (o :: os) = o.taken ++ taken os :=
  List.flatMap_cons

@[simp] theorem outcomes_cons (o : Occurrence) (os : List Occurrence) :
    outcomes (o :: os) = o.outcomes ++ outcomes os :=
  List.flatMap_cons

@[simp] theorem operations_cons (o : Occurrence) (os : List Occurrence) :
    operations (o :: os) = o.operations ++ operations os :=
  List.flatMap_cons

/-- All that the correlator did to others, in its order. -/
def effects (os : List Occurrence) : List Effect := (outcomes os).flatMap Outcome.effects

/-- The findings that went to the subscribers, in their order. -/
def stream (os : List Occurrence) : List Finding := (outcomes os).flatMap Outcome.published

end Correlator

end ServiceWatch
