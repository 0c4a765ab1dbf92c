import Std.Time.DateTime
import ServiceWatch.Time.Timestamp

/-! The clocks of the machine. -/
namespace ServiceWatch.Machine

def wallClock : IO Timestamp := do
  let nanos := (← Std.Time.Timestamp.now).toNanosecondsSinceUnixEpoch.val
  match Timestamp.ofSeconds? (nanos / 1000000000) (nanos % 1000000000).toNat with
  | some time => return time
  | none => throw (IO.userError "the wall clock is out of range")

/-- The milliseconds of a clock that never goes back. -/
def ticks : IO Nat := IO.monoMsNow

end ServiceWatch.Machine
