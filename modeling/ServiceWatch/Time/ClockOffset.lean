import ServiceWatch.Time.Timestamp

/-! Alignment of the local clock with that of the backend. -/
namespace ServiceWatch

namespace Timestamp

/-- The seconds since midnight, where a leap second counts as the second before it. -/
def timeOfDay (t : Timestamp) : Int := t.seconds % 86400

/--
The nanoseconds from `since` to `t`. A leap second between the two is counted if one of them
lies in it.
-/
def nanosSince (t since : Timestamp) : Int :=
  let seconds := t.seconds - since.seconds
  let nanos : Int := (t.fraction : Int) - since.fraction
  let leap : Int :=
    if since.timeOfDay < t.timeOfDay ∧ since.isLeap then 1
    else if t.timeOfDay < since.timeOfDay ∧ t.isLeap then -1
    else 0
  (seconds + leap) * 1000000000 + nanos

/-- The milliseconds from `since` to `t`, rounded toward zero. -/
def millisSince (t since : Timestamp) : Int := (t.nanosSince since).tdiv 1000000

/--
The point in time some milliseconds later, or earlier, if its year is in range. Within a leap
second the fraction moves; a step out of it takes the leap second's own second along.
-/
def addMillis (t : Timestamp) (ms : Int) : Option Timestamp :=
  let steps := ms.tdiv 1000
  let nanos := ms.tmod 1000 * 1000000
  let fraction : Int := t.fraction
  if t.isLeap ∧ steps = 0 ∧ fraction + nanos < 2000000000 then
    ofSeconds? t.seconds (fraction + nanos).toNat
  else
    let onward : Bool := 0 < steps ∨ 0 < nanos
    let seconds := if t.isLeap ∧ !onward then t.seconds + 1 else t.seconds
    let fraction := if t.isLeap then fraction - 1000000000 else fraction
    let total := (seconds + steps) * 1000000000 + fraction + nanos
    ofSeconds? (total / 1000000000) (total % 1000000000).toNat

end Timestamp

/-- How many milliseconds the backend's clock is ahead of the local one. -/
structure ClockOffset where
  ms : Int
  deriving DecidableEq

namespace ClockOffset

def none : ClockOffset := ⟨0⟩

/-- The offset when the backend's clock shows `master` and the local one shows `now`. -/
def align (master now : Timestamp) : ClockOffset := ⟨master.millisSince now⟩

/-- The backend's time at a local time, if its year is in range. -/
def adjust (o : ClockOffset) (now : Timestamp) : Option Timestamp := now.addMillis o.ms

end ClockOffset

end ServiceWatch
