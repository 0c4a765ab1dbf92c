import ServiceWatch.Correlation.Engine

/-!
The correlator owns an engine. It takes commands from a queue in turn with the ticks of a timer,
and publishes every finding of the engine to its subscribers before it answers.
-/
namespace ServiceWatch

/-- What holders of a handle ask of the correlator. -/
inductive Command where
  /-- Correlate a signal and answer with the findings. -/
  | correlate (signal : Signal)
  /-- Correlate a signal without an answer. -/
  | submit (signal : Signal)
  | memorySize
  | stats
  | sweep
  | shutdown

def Command.name : Command → String
  | .correlate _ => "Correlate"
  | .submit _ => "Submit"
  | .memorySize => "GetMemorySize"
  | .stats => "GetStats"
  | .sweep => "Sweep"
  | .shutdown => "Shutdown"

/-- The error for a command that nobody takes from the queue any more. -/
def Command.closedMessage (c : Command) : String :=
  "failed to send " ++ c.name ++ " command: channel closed"

inductive Reply where
  | findings (fs : List Finding)
  | size (n : Nat)
  | stats (s : MemoryStats)
  | none

/-- One thing that the correlator does to others. -/
inductive Effect where
  /-- A finding goes to every subscriber. -/
  | publish (f : Finding)
  /-- The sender of the command gets its answer. -/
  | answer (r : Reply)

/-- What one turn of the correlator lets others see, in its order. -/
structure Outcome where
  effects : List Effect

namespace Outcome

/-- Findings are published, and nobody gets an answer. -/
def publishing (found : List Finding) : Outcome := ⟨found.map .publish⟩

/-- Findings are published, and then the sender of the command gets an answer. -/
def answering (found : List Finding) (r : Reply) : Outcome := ⟨found.map .publish ++ [.answer r]⟩

def published (o : Outcome) : List Finding :=
  o.effects.filterMap fun
    | .publish f => some f
    | .answer _ => none

/-- The answer, if the sender of the command gets one. -/
def reply (o : Outcome) : Reply :=
  (o.effects.findSome? fun
    | .publish _ => none
    | .answer r => some r).getD .none

end Outcome

/-- The state of a correlator: its engine, the commands that wait, the open handles, and whether it still runs. -/
structure Correlator where
  engine : Engine
  queue : List Command
  handles : Nat
  running : Bool

namespace Correlator

/-- A correlator with one open handle. -/
def new (config : CorrelationConfig) : Correlator := ⟨.new config, [], 1, true⟩

def send (c : Correlator) (command : Command) : Correlator :=
  { c with queue := c.queue ++ [command] }

def openHandle (c : Correlator) : Correlator := { c with handles := c.handles + 1 }

def closeHandle (c : Correlator) : Correlator := { c with handles := c.handles - 1 }

/-- Sweeps and publishes what expiry found out. -/
def flush (c : Correlator) (now : Nat) : Outcome × Correlator :=
  let (found, engine) := c.engine.sweep now
  (.publishing found, { c with engine })

def handle (c : Correlator) (now : Nat) : Command → Outcome × Correlator
  | .correlate signal =>
    let (found, engine) := c.engine.correlate signal now
    (.answering found (.findings found), { c with engine })
  | .submit signal =>
    let (found, engine) := c.engine.correlate signal now
    (.publishing found, { c with engine })
  | .memorySize =>
    let (n, engine) := c.engine.memorySize now
    (.answering [] (.size n), { c with engine })
  | .stats =>
    let (s, engine) := c.engine.stats now
    (.answering [] (.stats s), { c with engine })
  | .sweep =>
    let (found, engine) := c.engine.sweep now
    (.answering found (.findings found), { c with engine })
  | .shutdown =>
    let (outcome, c) := c.flush now
    (outcome, { c with running := false })

/-- What a turn can wait for. -/
inductive Branch where
  /-- The timer ticks. -/
  | tick
  /-- A command comes out of the queue. -/
  | command
  /-- Neither of the other branches can ever come up again. -/
  | closed
  deriving DecidableEq

/-- The branches that may come up now or later: the timer always does, commands do while any can be sent. -/
def expects (c : Correlator) : Branch → Bool
  | .tick => true
  | .command => !c.queue.isEmpty || 0 < c.handles
  | .closed => false

def canTake (c : Correlator) : Branch → Bool
  | .tick => c.running && c.expects .tick
  | .command => c.running && !c.queue.isEmpty
  | .closed => c.running && !c.expects .tick && !c.expects .command

/-- One turn: the branch, if it can be taken. -/
def turn (c : Correlator) (branch : Branch) (now : Nat) : Option (Outcome × Correlator) :=
  if c.canTake branch then
    match branch, c.queue with
    | .tick, _ => some (c.flush now)
    | .command, command :: queue => some ({ c with queue }.handle now command)
    | .command, [] => none
    | .closed, _ =>
      let (outcome, c) := c.flush now
      some (outcome, { c with running := false })
  else none

end Correlator

end ServiceWatch
