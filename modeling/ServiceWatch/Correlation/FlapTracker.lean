/-!
Sliding windows over the instants at which a service was lost and regained. Instants are
milliseconds since the start of the program.
-/
namespace ServiceWatch

/-- The transitions of one sighting that lie within a window. -/
structure FlapTracker where
  /-- The counted transitions, oldest first. -/
  transitions : List Nat
  /-- The latest transition, counted or not. -/
  last : Nat
  /-- Flapping was reported already. -/
  reported : Bool
  deriving DecidableEq, Repr

namespace FlapTracker

/-- The time from `since` to `now`, which is zero if `now` is earlier. -/
def elapsed (since now : Nat) : Nat := now - since

/-- The tracker of a service that was lost and regained; the loss counts only if it lies in the window. -/
def ofCycle (lost regained : Nat) (window : Nat) : FlapTracker where
  transitions := if elapsed lost regained < window then [lost, regained] else [regained]
  last := regained
  reported := false

/-- Drops the oldest transitions until one lies in the window that ends at `now`. -/
def prune (t : FlapTracker) (now : Nat) (window : Nat) : FlapTracker :=
  { t with transitions := t.transitions.dropWhile fun since => window ≤ elapsed since now }

def record (t : FlapTracker) (now : Nat) (window : Nat) : FlapTracker :=
  prune { t with transitions := t.transitions ++ [now], last := now } now window

def count (t : FlapTracker) : Nat := t.transitions.length

/-- The latest transition has left the window that ends at `now`. -/
def isExpired (t : FlapTracker) (now : Nat) (window : Nat) : Bool := window ≤ elapsed t.last now

def markReported (t : FlapTracker) : FlapTracker := { t with reported := true }

/-- Starts counting from nothing; when the tracker expires still follows from the latest transition. -/
def reset (t : FlapTracker) : FlapTracker := { t with transitions := [], reported := false }

end FlapTracker

end ServiceWatch
