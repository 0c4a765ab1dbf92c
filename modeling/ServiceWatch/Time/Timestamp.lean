import ServiceWatch.Time.Calendar
import ServiceWatch.Text.Decimal

/-! Points in time in UTC to the nanosecond, leap seconds included. -/
namespace ServiceWatch

/-- The fields of a point in time that the calendar admits. Second 60 is a leap second, so that these
stand at the end of a minute only: within any other second, a thousand million nanoseconds or more are
outside of this type. Nothing that is read, measured or computed here has so many. -/
structure Timestamp where
  year : Int
  month : Nat
  day : Nat
  hour : Nat
  minute : Nat
  second : Nat
  nano : Nat
  year_mem : Time.firstYear ≤ year ∧ year ≤ Time.lastYear
  month_mem : 1 ≤ month ∧ month ≤ 12
  day_mem : 1 ≤ day ∧ day ≤ Time.daysInMonth year month
  hour_lt : hour < 24
  minute_lt : minute < 60
  second_le : second ≤ 60
  nano_lt : nano < 1000000000
  deriving DecidableEq

namespace Timestamp

open ServiceWatch.Text

/-- The point in time with the given fields, if the calendar admits them. -/
def ofFields? (year : Int) (month day hour minute second nano : Nat) : Option Timestamp :=
  if h : (Time.firstYear ≤ year ∧ year ≤ Time.lastYear) ∧ (1 ≤ month ∧ month ≤ 12) ∧
      (1 ≤ day ∧ day ≤ Time.daysInMonth year month) ∧ hour < 24 ∧ minute < 60 ∧ second ≤ 60 ∧
      nano < 1000000000 then
    some ⟨year, month, day, hour, minute, second, nano, h.1, h.2.1, h.2.2.1, h.2.2.2.1,
      h.2.2.2.2.1, h.2.2.2.2.2.1, h.2.2.2.2.2.2⟩
  else none

/-- A leap second follows the last second of a minute. -/
def isLeap (t : Timestamp) : Bool := t.second = 60

/-- The seconds since the start of 1970, where a leap second counts as the second before it. -/
def seconds (t : Timestamp) : Int :=
  Time.dayNumber t.year t.month t.day * 86400 + t.hour * 3600 + t.minute * 60 +
    (if t.isLeap then 59 else t.second : Nat)

/-- The nanoseconds behind `seconds`: a leap second has a thousand million more of them. -/
def fraction (t : Timestamp) : Nat := if t.isLeap then 1000000000 + t.nano else t.nano

/-- The point in time with the given seconds and nanoseconds, if its year is in range. -/
def ofSeconds? (seconds : Int) (fraction : Nat) : Option Timestamp :=
  let day := seconds / 86400
  let rest := (seconds % 86400).toNat
  let (y, m, d) := Time.civil day
  if fraction < 1000000000 then
    ofFields? y m d (rest / 3600) (rest / 60 % 60) (rest % 60) fraction
  else if rest % 60 = 59 then
    ofFields? y m d (rest / 3600) (rest / 60 % 60) 60 (fraction - 1000000000)
  else none

/-- The same point in time as shown by a clock that is `minutes` ahead, read back to UTC. -/
def behind (t : Timestamp) (minutes : Int) : Option Timestamp :=
  if minutes = 0 then some t else ofSeconds? (t.seconds - minutes * 60) t.fraction

/-- A year from 0 to 9999 has four digits; any other has a sign and at least four digits. -/
def renderYear (y : Int) : List Char :=
  match y with
  | .ofNat n => if n ≤ 9999 then Decimal.padded 4 n else '+' :: Decimal.padded 4 n
  | .negSucc n => '-' :: Decimal.padded 4 (n + 1)

/-- A fraction has no digits, or three, six or nine: the fewest that lose nothing. -/
def renderFraction (nano : Nat) : List Char :=
  if nano = 0 then []
  else if nano % 1000000 = 0 then '.' :: Decimal.padded 3 (nano / 1000000)
  else if nano % 1000 = 0 then '.' :: Decimal.padded 6 (nano / 1000)
  else '.' :: Decimal.padded 9 nano

def render (t : Timestamp) : List Char :=
  renderYear t.year ++ '-' :: (Decimal.padded 2 t.month ++ '-' :: (Decimal.padded 2 t.day ++ 'T' ::
    (Decimal.padded 2 t.hour ++ ':' :: (Decimal.padded 2 t.minute ++ ':' ::
      (Decimal.padded 2 t.second ++ (renderFraction t.nano ++ ['Z']))))))

def text (t : Timestamp) : String := String.ofList t.render

end Timestamp

end ServiceWatch
