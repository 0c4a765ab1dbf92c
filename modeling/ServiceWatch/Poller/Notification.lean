import ServiceWatch.Poller.PollStatus

/-! What a coordinator tells its listeners, and who listens. -/
namespace ServiceWatch.Poller

/-- How much of a scan pass is done. -/
structure Progress where
  completed : Nat
  total : Nat
  deriving DecidableEq

namespace Progress

def start : Progress := ⟨0, 1⟩

def finish : Progress := ⟨1, 1⟩

/-- The progress as a number from 0 to 1. -/
def toFloat (p : Progress) : Float := p.completed.toFloat / p.total.toFloat

end Progress

inductive Change where
  | started (old new : Bool)
  | registered (old new : Bool)
  | percentageComplete (progress : Progress)
  /-- The scan pass is over, and the poller has nothing left to do. -/
  | exitNecessary (report : ScanReport)
  deriving DecidableEq

def Change.name : Change → String
  | started _ _ => "started"
  | registered _ _ => "registered"
  | percentageComplete _ => "percentageComplete"
  | exitNecessary _ => "exitNecessary"

structure ListenerId where
  number : UInt64
  deriving DecidableEq

/-- The listeners in the order of their registration, and the number of the next one. -/
structure Listeners where
  next : UInt64 := 0
  ids : List ListenerId := []
  deriving DecidableEq

namespace Listeners

def add (l : Listeners) : ListenerId × Listeners :=
  (⟨l.next⟩, ⟨l.next + 1, l.ids ++ [⟨l.next⟩]⟩)

def remove (l : Listeners) (id : ListenerId) : Bool × Listeners :=
  let ids := l.ids.filter (· ≠ id)
  (ids.length ≠ l.ids.length, { l with ids })

end Listeners

end ServiceWatch.Poller
