import ServiceWatch.Correlation.Correlator

/-! A correlator on a clock: when its timer ticks, and what happens while time passes. -/
namespace ServiceWatch

/-- A timer: when it ticks next, and the time between two ticks. -/
structure Ticker where
  due : Nat
  period : Nat

namespace Ticker

/-- A tick that comes at most so many milliseconds late does not shift the ones behind it. -/
def tolerance : Nat := 5

/-- The timer behind a tick at `now`: after a late tick, the period counts from then. -/
def next (t : Ticker) (now : Nat) : Ticker :=
  { t with due := if t.due + tolerance < now then now + t.period else t.due + t.period }

theorem due_lt_next {t : Ticker} {now : Nat} (h : 0 < t.period) : t.due < (t.next now).due := by
  simp only [next]
  split <;> omega

end Ticker

/-- A correlator, its timer, the time, and all that was published. -/
structure Schedule where
  correlator : Correlator
  ticker : Ticker
  now : Nat
  published : List Finding
  period_pos : 0 < ticker.period

namespace Schedule

/-- A correlator at the start; its timer ticks at once. -/
def new (config : CorrelationConfig) : Schedule where
  correlator := .new config
  ticker := ⟨0, config.sweepInterval⟩
  now := 0
  published := []
  period_pos := by simp only [CorrelationConfig.sweepInterval]; omega

def take (s : Schedule) (branch : Correlator.Branch) : Option (Reply × Schedule) :=
  (s.correlator.turn branch s.now).map fun (outcome, correlator) =>
    (outcome.reply, { s with correlator, published := s.published ++ outcome.published })

def tick (s : Schedule) : Schedule :=
  let ticked := { s with ticker := s.ticker.next s.now, period_pos := s.period_pos }
  match ticked.take .tick with
  | none => ticked
  | some (_, s) => s

/-- Lets the timer tick as long as a tick is due. -/
def settle (s : Schedule) : Nat → Schedule
  | 0 => s
  | fuel + 1 => if s.ticker.due ≤ s.now then s.tick.settle fuel else s

/-- Lets every tick happen that is due. -/
def catchUp (s : Schedule) : Schedule := s.settle (s.now + 1 - s.ticker.due)

theorem now_tick (s : Schedule) : s.tick.now = s.now := by
  cases hturn : s.correlator.turn .tick s.now <;> simp [tick, take, hturn]

theorem ticker_tick (s : Schedule) : s.tick.ticker = s.ticker.next s.now := by
  cases hturn : s.correlator.turn .tick s.now <;> simp [tick, take, hturn]

theorem now_lt_due_settle {s : Schedule} {fuel : Nat} (h : s.now < s.ticker.due + fuel) :
    (s.settle fuel).now < (s.settle fuel).ticker.due := by
  induction fuel generalizing s with
  | zero => exact h
  | succ fuel ih =>
    unfold settle
    split
    · have hforward : s.ticker.due < (s.ticker.next s.now).due := Ticker.due_lt_next s.period_pos
      exact ih (by rw [now_tick, ticker_tick]; omega)
    · omega

/-- Every tick moves the next one forward, so that none is left that is due. -/
theorem now_lt_due_catchUp (s : Schedule) : s.catchUp.now < s.catchUp.ticker.due :=
  now_lt_due_settle (by omega)

def jump (s : Schedule) (ms : Nat) : Schedule := { s with now := s.now + ms }.catchUp

/-- Time passes up to `stop`, and every tick on the way happens at its own time. -/
def passUntil (s : Schedule) (stop : Nat) : Nat → Schedule
  | 0 => { s with now := stop }
  | fuel + 1 =>
    if s.ticker.due ≤ stop then
      ({ s with now := max s.now s.ticker.due }.catchUp).passUntil stop fuel
    else { s with now := stop }

def pass (s : Schedule) (ms : Nat) : Schedule :=
  s.passUntil (s.now + ms) (s.now + ms + 1 - s.ticker.due)

/-- Hands over what was published since the last time. -/
def drain (s : Schedule) : List Finding × Schedule :=
  (s.published, { s with published := [], period_pos := s.period_pos })

/-- Sends a command and lets it be carried out; there is no reply once the correlator has stopped. -/
def call (s : Schedule) (command : Command) : Option (Reply × Schedule) :=
  let s := s.catchUp
  if s.correlator.running then { s with correlator := s.correlator.send command }.take .command
  else none

end Schedule

end ServiceWatch
