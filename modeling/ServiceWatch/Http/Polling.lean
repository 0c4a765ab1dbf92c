import ServiceWatch.Http.Check
import ServiceWatch.Poller.PollStatus

/-! Polling services over HTTP: which services are checked this way, and the checks made ready for them. -/
namespace ServiceWatch.Http

/-- Who checks which services, and the checks that are ready, by the number of their service. -/
structure Polling where
  locators : List ServiceMonitorLocator := []
  checks : Table UInt32 Check := ∅

structure Surroundings (m : Type → Type) where
  exchange : Transport m
  /-- The time that results are stamped with. -/
  now : m Timestamp
  /-- The milliseconds of a clock that never goes back. -/
  ticks : m Nat

namespace Polling

def monitor : String := "http"

def installLocators (p : Polling) (locators : List ServiceMonitorLocator) : Polling :=
  { p with locators }

/-- A service is checked over HTTP: the first locator for its name decides, or else the name itself. -/
def claims (p : Polling) (s : PolledService) : Bool :=
  match p.locators.find? fun l => l.serviceName = s.name with
  | some l => sameButCase l.monitor monitor
  | none => sameButCase s.name "HTTP" || sameButCase s.name "HTTPS"

/-- Makes the check of a service ready. A service that is not checked over HTTP loses its check. -/
def prepare (p : Polling) (s : PolledService) : Except Failure Polling :=
  if p.claims s then do
    let check ← attempting ("invalid parameters for service " ++ Text.Decimal.text s.id.toNat)
      (Check.ofService s)
    return { p with checks := p.checks.insert s.id check }
  else return { p with checks := p.checks.erase s.id }

/-- The result of a check. A response time is given if the exchange was completed. -/
def verdict (service : UInt32) (check : Check) (answer : Except Failure (UInt16 × String))
    (time : Timestamp) (elapsed : Nat) : PollStatus :=
  match answer with
  | .error failure => .down service failure.text time
  | .ok (status, body) =>
    let result := match check.complaint status body with
      | none => PollStatus.up service time
      | some reason => PollStatus.down service reason time
    result.withResponseTime elapsed.toUInt64

variable {m : Type → Type} [Monad m]

/-- Runs a check that is ready, and measures how long that takes. -/
def examine (around : Surroundings m) (service : UInt32) (check : Check) : m PollStatus := do
  let start ← around.ticks
  let answer := check.read (← around.exchange check.request)
  let stop ← around.ticks
  return verdict service check answer (← around.now) (stop - start)

/-- Polls a service. One that is not checked over HTTP has no result. -/
def poll (p : Polling) (around : Surroundings m) (s : PolledService) : m (Option PollStatus) := do
  match p.checks.get? s.id with
  | none =>
    if p.claims s then
      return some (.unknown s.id "Service check was not initialized" (← around.now))
    else return none
  | some check => return some (← examine around s.id check)

end Polling

end ServiceWatch.Http
