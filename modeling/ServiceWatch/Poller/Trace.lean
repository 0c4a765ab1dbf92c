import ServiceWatch.Poller.Coordinator
import ServiceWatch.Poller.Interleaving

/-! What can be seen of calls from outside: what they ask and hear, which changes they fire, and how
they move the state; for one call on its own, and for all calls of a pool. -/
namespace ServiceWatch.Poller

variable {α : Type}

/-- What can be seen of a step. -/
inductive Event where
  | asked (request : Request) (answer : request.Answer)
  | fired (change : Change)
  /-- The state became another one. -/
  | moved (before after : State)

def Memory.moves (before after : Memory) : List Event :=
  if before.state = after.state then [] else [.moved before.state after.state]

/-- From the memory `m`, a call that nobody interrupts can show `es`, and end with the result `a`
and the memory `m'`. A call that takes or gives back the guard is none of those. -/
def Call.Traces : Call α → (m : Memory) → (es : List Event) → (a : α) → (m' : Memory) → Prop
  | .done b, m, es, a, m' => es = [] ∧ a = b ∧ m' = m
  | .ask r next, m, es, a, m' => ∃ x rest, es = .asked r x :: rest ∧ (next x).Traces m rest a m'
  | .fire c next, m, es, a, m' => ∃ rest, es = .fired c :: rest ∧ next.Traces m rest a m'
  | .tell _ _ next, m, es, a, m' => next.Traces m es a m'
  | .access update next, m, es, a, m' =>
    ∃ rest, es = m.moves (update m) ++ rest ∧ (next m).Traces (update m) rest a m'
  | .enter _, _, _, _, _ | .leave _, _, _, _, _ => False

/-- What can be seen of an occurrence, with the number of the call that showed it. -/
def Occurrence.events : Occurrence → List (Nat × Event)
  | asked i r x => [(i, .asked r x)]
  | fired i c => [(i, .fired c)]
  | accessed i before after => (before.moves after).map (i, ·)
  | told _ _ _ | entered _ | left _ => []

def events (os : List Occurrence) : List (Nat × Event) := os.flatMap Occurrence.events

/-- A call that the state has to accept. -/
inductive Invocation where
  | startUp
  | register (location : String)
  | pollService (id : UInt32)
  deriving DecidableEq

namespace Coordinator

def call (c : Coordinator) : Invocation → Call (Except Fault Unit)
  | .startUp => c.startUp
  | .register location => c.register location
  | .pollService id => c.pollService id

def pool (c : Coordinator) (listeners : Listeners) (invocations : List Invocation) :
    Pool (Except Fault Unit) :=
  { memory := { listeners }, calls := invocations.map c.call }

end Coordinator

end ServiceWatch.Poller
