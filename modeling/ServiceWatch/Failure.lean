/-! Failures, and what was being done when they struck. -/
namespace ServiceWatch

/-- A cause, and around it what was being done at the time, from the inside out. -/
structure Failure where
  cause : String
  contexts : List String := []
  deriving DecidableEq

namespace Failure

/-- The failure as seen by whoever was doing `what`. -/
def during (f : Failure) (what : String) : Failure := { f with contexts := f.contexts ++ [what] }

/-- All texts of a failure from the outside in; the cause comes last. -/
def chain (f : Failure) : List String := (f.cause :: f.contexts).reverse

/-- What was being done at the outermost level, or the cause if nothing is known about that. -/
def outermost (f : Failure) : String := f.contexts.getLast?.getD f.cause

/-- All texts of a failure in one line, the outermost first. -/
def text (f : Failure) : String := ": ".intercalate f.chain

end Failure

/-- A computation that says what it was doing when it fails. -/
def attempting {α : Type} (what : String) : Except Failure α → Except Failure α
  | .ok a => .ok a
  | .error f => .error (f.during what)

end ServiceWatch
