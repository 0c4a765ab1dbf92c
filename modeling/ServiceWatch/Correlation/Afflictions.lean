import ServiceWatch.Correlation.FlapTracker
import ServiceWatch.Data.Table
import ServiceWatch.Service.Basic

/-! The monitors that report a service lost, and since when each of them does. -/
namespace ServiceWatch

/-- The lost services, each with the monitors that report it and the instants of their reports. -/
structure Afflictions where
  byService : Table ServiceId (Table MonitorId Nat)
  /-- A service that no monitor reports has no entry. -/
  occupied : ∀ e ∈ byService.entries, e.2.isEmpty = false

namespace Afflictions

def empty : Afflictions := ⟨∅, fun _ h => nomatch h⟩

instance : EmptyCollection Afflictions := ⟨empty⟩

/-- The monitors that report a service, with the instants of their reports. -/
def monitors (a : Afflictions) (service : ServiceId) : Table MonitorId Nat :=
  (a.byService.get? service).getD ∅

/-- The instant since when a sighting is lost. -/
def get? (a : Afflictions) (s : Sighting) : Option Nat := (a.monitors s.service).get? s.monitor

def count (a : Afflictions) (service : ServiceId) : Nat := (a.monitors service).size

def size (a : Afflictions) : Nat :=
  a.byService.values.foldl (fun n monitors => n + monitors.size) 0

/-- Notes a report; one that is there already stays as it is, and the answer is `false`. -/
def insert (a : Afflictions) (s : Sighting) (now : Nat) : Bool × Afflictions :=
  let monitors := a.monitors s.service
  if monitors.contains s.monitor then (false, a)
  else
    (true,
      { byService := a.byService.insert s.service (monitors.insert s.monitor now)
        occupied := by
          intro e he
          rcases Table.mem_entries_insert.1 he with rfl | ⟨h, -⟩
          · exact Table.isEmpty_insert ..
          · exact a.occupied e h })

/-- Takes a report back, and with the last one the entry of the service; the answer is its instant. -/
def remove (a : Afflictions) (s : Sighting) : Option Nat × Afflictions :=
  match a.byService.get? s.service with
  | none => (none, a)
  | some monitors =>
    let rest := monitors.erase s.monitor
    (monitors.get? s.monitor,
      if h : rest.isEmpty then
        { byService := a.byService.erase s.service
          occupied := fun e he => a.occupied e (Table.mem_entries_erase.1 he).1 }
      else
        { byService := a.byService.insert s.service rest
          occupied := by
            intro e he
            rcases Table.mem_entries_insert.1 he with rfl | ⟨h', -⟩
            · simpa using h
            · exact a.occupied e h' })

/-- A report has reached the age at which it is dropped. -/
def isStale (now : Nat) (timeout : Nat) (created : Nat) : Bool :=
  timeout ≤ FlapTracker.elapsed created now

def fresh (now : Nat) (timeout : Nat) (monitors : Table MonitorId Nat) : Table MonitorId Nat :=
  monitors.filter fun _ created => !isStale now timeout created

/-- The reports about a service that are not stale, if there are any. -/
def remaining (now : Nat) (timeout : Nat) (monitors : Table MonitorId Nat) :
    Option (Table MonitorId Nat) :=
  let kept := fresh now timeout monitors
  if kept.isEmpty then none else some kept

/-- The services with fewer fresh reports than reports, in order. -/
def affected (a : Afflictions) (now : Nat) (timeout : Nat) : List ServiceId :=
  (a.byService.filter fun _ monitors => (fresh now timeout monitors).size ≠ monitors.size).keys.mergeSort
    ServiceId.le

/-- Drops the reports that are stale, and the services left without any; the answer is the services
that lost a report. -/
def expire (a : Afflictions) (now : Nat) (timeout : Nat) : List ServiceId × Afflictions :=
  (a.affected now timeout,
    { byService := a.byService.filterMap fun _ => remaining now timeout
      occupied := by
        intro e he
        obtain ⟨monitors, -, hr⟩ := Table.mem_entries_filterMap.1 he
        simp only [remaining, Option.ite_none_left_eq_some, Option.some.injEq] at hr
        simpa [hr.2] using hr.1 })

end Afflictions

end ServiceWatch
