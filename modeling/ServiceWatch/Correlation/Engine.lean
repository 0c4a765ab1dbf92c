import ServiceWatch.Correlation.Event
import ServiceWatch.Correlation.Settings
import ServiceWatch.Correlation.WorkingMemory

/-!
The correlation engine: it turns signals into findings about outages of wide spread and about
flapping. Facts expire lazily, before every operation; what expiry finds out waits until an
operation hands out findings.
-/
namespace ServiceWatch

/-- What made a finding: a signal with its own time, or facts that expired at an instant. -/
inductive Cause where
  | signal (time : Timestamp)
  | expiry (instant : Nat)
  deriving DecidableEq

structure Finding where
  kind : EventKind
  service : ServiceId
  monitor : Option MonitorId
  cause : Cause
  deriving DecidableEq

/-- The event of a finding; expiry is stamped with the wall clock at its instant. -/
def Finding.toEvent (clock : Nat → Timestamp) (f : Finding) : CorrelatedEvent :=
  .ofKind f.kind f.service f.monitor <|
    match f.cause with
    | .signal time => time
    | .expiry instant => clock instant

/-- The rules, the facts, and the findings of expiry that were not handed out yet. -/
structure Engine where
  config : CorrelationConfig
  memory : WorkingMemory
  pending : List Finding

namespace Engine

def new (config : CorrelationConfig) : Engine := ⟨config, .empty, []⟩

/-- So many monitors report a service lost that its outage is of wide spread. -/
def isWideSpread (config : CorrelationConfig) (monitors : Nat) : Bool :=
  0 < monitors && config.threshold ≤ monitors

/-- Opens or resolves the outage of a service, if the number of monitors that report it lost asks for it. -/
def evaluateWideSpread (config : CorrelationConfig) (m : WorkingMemory) (service : ServiceId)
    (now : Nat) (cause : Cause) : List Finding × WorkingMemory :=
  match isWideSpread config (m.afflictedMonitors service), m.hasOutage service with
  | true, false => ([⟨.wideSpreadOutage, service, none, cause⟩], m.insertOutage service now)
  | false, true =>
    ([⟨.wideSpreadOutageResolved, service, none, cause⟩], (m.removeOutage service).2)
  | _, _ => ([], m)

def evaluateServices (config : CorrelationConfig) (now : Nat) (cause : Cause) :
    List ServiceId → WorkingMemory → List Finding × WorkingMemory
  | [], m => ([], m)
  | service :: services, m =>
    let (found, m) := evaluateWideSpread config m service now cause
    let (more, m) := evaluateServices config now cause services m
    (found ++ more, m)

/-- Drops what is too old, and notes the outages that thereby ended. -/
def expire (e : Engine) (now : Nat) : Engine :=
  let memory := (e.memory.expireTrackers now e.config.flapInterval).2
  match e.config.afflictionTimeout with
  | none => { e with memory }
  | some timeout =>
    let (affected, memory) := memory.expireAfflictions now timeout
    let (found, memory) := evaluateServices e.config now (.expiry now) affected memory
    { e with memory, pending := e.pending ++ found }

/-- Reports flapping once enough transitions of a sighting were counted. -/
def evaluateFlapping (config : CorrelationConfig) (m : WorkingMemory) (s : Sighting)
    (cause : Cause) : List Finding × WorkingMemory :=
  match m.trackers.get? s with
  | none => ([], m)
  | some t =>
    if config.flapCount = 0 ∨ t.reported ∨ t.count < config.flapCount.toNat then ([], m)
    else
      ([⟨.serviceFlapping, s.service, some s.monitor, cause⟩],
        m.insertTracker s (match config.flapPolicy with
          | .retain => t.markReported
          | .reset => t.reset))

/-- The facts behind a signal that reports something new, and `none` for any other signal. -/
def observe (config : CorrelationConfig) (m : WorkingMemory) (signal : Signal) (now : Nat) :
    Option WorkingMemory :=
  let window := config.flapInterval
  match signal.kind with
  | .lost =>
    let (isNew, m) := m.insertAffliction signal.sighting now
    if isNew then some (m.modifyTracker signal.sighting (·.record now window)) else none
  | .regained =>
    match m.removeAffliction signal.sighting with
    | (none, _) => none
    | (some created, m) =>
      match m.trackers.get? signal.sighting with
      | some t => some (m.insertTracker signal.sighting (t.record now window))
      | none => some (m.insertTracker signal.sighting (.ofCycle created now window))

/-- Evaluates the rules on the facts behind a signal that reported something new. -/
def evaluate (config : CorrelationConfig) (m : WorkingMemory) (signal : Signal) (now : Nat) :
    List Finding × WorkingMemory :=
  let cause := Cause.signal signal.time
  let (flapping, m) := evaluateFlapping config m signal.sighting cause
  let (outage, m) := evaluateWideSpread config m signal.service now cause
  (flapping ++ outage, m)

/-- Applies a signal that arrives at `now`; the answer is all that was found out until then. -/
def correlate (e : Engine) (signal : Signal) (now : Nat) : List Finding × Engine :=
  let e := e.expire now
  match observe e.config e.memory signal now with
  | none => (e.pending, { e with pending := [] })
  | some memory =>
    let (found, memory) := evaluate e.config memory signal now
    (e.pending ++ found, { e with memory, pending := [] })

/-- Hands out all that expiry found out. -/
def sweep (e : Engine) (now : Nat) : List Finding × Engine :=
  let e := e.expire now
  (e.pending, { e with pending := [] })

/-- The number of facts after expiry, whose findings go on waiting. -/
def memorySize (e : Engine) (now : Nat) : Nat × Engine :=
  let e := e.expire now
  (e.memory.size, e)

/-- The number of facts of each kind after expiry, whose findings go on waiting. -/
def stats (e : Engine) (now : Nat) : MemoryStats × Engine :=
  let e := e.expire now
  (e.memory.stats, e)

inductive Operation where
  | correlate (signal : Signal)
  | sweep
  | memorySize
  | stats

/-- Applies an operation at an instant; the answer is the findings that it hands out. -/
def apply (e : Engine) : Operation → Nat → List Finding × Engine
  | .correlate signal, now => e.correlate signal now
  | .sweep, now => e.sweep now
  | .memorySize, now => ([], (e.memorySize now).2)
  | .stats, now => ([], (e.stats now).2)

/-- Applies operations one after the other; the answer is the findings that each handed out. -/
def run (e : Engine) : List (Operation × Nat) → List (List Finding) × Engine
  | [] => ([], e)
  | (operation, now) :: rest =>
    let (found, e) := e.apply operation now
    let (more, e) := e.run rest
    (found :: more, e)

end Engine

end ServiceWatch
