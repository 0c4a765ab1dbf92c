import ServiceWatch.Correlation.Afflictions

/-!
The facts that correlation keeps: who reports which service lost and since when, the recent
transitions of each sighting, and the services whose outage is of wide spread.
-/
namespace ServiceWatch

structure MemoryStats where
  afflictions : Nat
  trackers : Nat
  outages : Nat
  deriving DecidableEq, Repr

def MemoryStats.total (s : MemoryStats) : Nat := s.afflictions + s.trackers + s.outages

/-- The facts that correlation keeps. -/
structure WorkingMemory where
  afflictions : Afflictions
  trackers : Table Sighting FlapTracker
  /-- The services with an outage of wide spread, with the instant at which it began. -/
  outages : Table ServiceId Nat

namespace WorkingMemory

def empty : WorkingMemory := ⟨∅, ∅, ∅⟩

def isAfflicted (m : WorkingMemory) (s : Sighting) : Bool := (m.afflictions.get? s).isSome

/-- Notes an affliction; one that is active already stays as it is, and the answer is `false`. -/
def insertAffliction (m : WorkingMemory) (s : Sighting) (now : Nat) : Bool × WorkingMemory :=
  let (isNew, afflictions) := m.afflictions.insert s now
  (isNew, { m with afflictions })

/-- Ends an affliction; the answer is the instant of the loss. -/
def removeAffliction (m : WorkingMemory) (s : Sighting) : Option Nat × WorkingMemory :=
  let (created, afflictions) := m.afflictions.remove s
  (created, { m with afflictions })

def afflictedMonitors (m : WorkingMemory) (service : ServiceId) : Nat :=
  m.afflictions.count service

def insertTracker (m : WorkingMemory) (s : Sighting) (t : FlapTracker) : WorkingMemory :=
  { m with trackers := m.trackers.insert s t }

def modifyTracker (m : WorkingMemory) (s : Sighting) (f : FlapTracker → FlapTracker) : WorkingMemory :=
  match m.trackers.get? s with
  | none => m
  | some t => m.insertTracker s (f t)

def hasOutage (m : WorkingMemory) (service : ServiceId) : Bool := m.outages.contains service

def insertOutage (m : WorkingMemory) (service : ServiceId) (now : Nat) : WorkingMemory :=
  { m with outages := m.outages.insert service now }

/-- Ends an outage; the answer is the instant at which it began. -/
def removeOutage (m : WorkingMemory) (service : ServiceId) : Option Nat × WorkingMemory :=
  (m.outages.get? service, { m with outages := m.outages.erase service })

/-- Drops the trackers whose latest transition has left the window; the answer is their number. -/
def expireTrackers (m : WorkingMemory) (now : Nat) (window : Nat) : Nat × WorkingMemory :=
  let kept := m.trackers.filter fun _ t => !t.isExpired now window
  (m.trackers.size - kept.size, { m with trackers := kept })

/-- Drops the afflictions that are too old; the answer is the services they belonged to. -/
def expireAfflictions (m : WorkingMemory) (now : Nat) (timeout : Nat) :
    List ServiceId × WorkingMemory :=
  let (affected, afflictions) := m.afflictions.expire now timeout
  (affected, { m with afflictions })

def stats (m : WorkingMemory) : MemoryStats :=
  ⟨m.afflictions.size, m.trackers.size, m.outages.size⟩

def size (m : WorkingMemory) : Nat := m.stats.total

def isEmpty (m : WorkingMemory) : Bool := m.size = 0

end WorkingMemory

end ServiceWatch
