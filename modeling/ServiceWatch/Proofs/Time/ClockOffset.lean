import Mathlib.Algebra.Order.Ring.Abs
import ServiceWatch.CommandLine.PollerProgram
import ServiceWatch.Proofs.Time.Calendar

/-!
The clock that is aligned with the backend's. Outside of leap seconds a point in time is a number of
nanoseconds, and the numbers between two of them are points in time as well; so an offset that is cut
down toward zero never leads out of the calendar.
-/
namespace ServiceWatch

namespace Timestamp

variable {t : Timestamp} {n : Int}

/-- The nanoseconds since the start of 1970. -/
def nanos (t : Timestamp) : Int := t.seconds * 1000000000 + t.fraction

/-- A number of nanoseconds that a point in time outside of leap seconds has. -/
def Representable (n : Int) : Prop := ∃ t : Timestamp, t.isLeap = false ∧ t.nanos = n

/-! ### Points in time as nanoseconds -/

theorem isDate (t : Timestamp) : Time.IsDate t.year t.month t.day := ⟨t.month_mem, t.day_mem⟩

theorem fraction_lt (ht : t.isLeap = false) : t.fraction < 1000000000 := by
  have hnano := t.nano_lt
  simpa [fraction, ht] using hnano

theorem second_lt (ht : t.isLeap = false) : t.second < 60 := by
  have hle := t.second_le
  have hne : t.second ≠ 60 := by simpa [isLeap] using ht
  omega

theorem seconds_eq (ht : t.isLeap = false) :
    t.seconds = Time.dayNumber t.year t.month t.day * 86400 + t.hour * 3600 + t.minute * 60 +
      t.second := by
  simp [seconds, ht]

theorem day_eq (ht : t.isLeap = false) :
    t.nanos / 1000000000 / 86400 = Time.dayNumber t.year t.month t.day := by
  have hfraction := fraction_lt ht
  have hsecond := second_lt ht
  have hminute := t.minute_lt
  have hhour := t.hour_lt
  rw [nanos, seconds_eq ht]
  omega

/-- Outside of leap seconds, points in time are the same as their nanoseconds. -/
theorem eq_of_nanos_eq {u : Timestamp} (ht : t.isLeap = false) (hu : u.isLeap = false)
    (h : t.nanos = u.nanos) : t = u := by
  have hday : Time.dayNumber t.year t.month t.day = Time.dayNumber u.year u.month u.day := by
    rw [← day_eq ht, ← day_eq hu, h]
  obtain ⟨hyear, hmonth, hdate⟩ := t.isDate.eq_of_dayNumber_eq u.isDate hday
  have hseconds : t.seconds = u.seconds ∧ t.fraction = u.fraction := by
    have hfraction := fraction_lt ht
    have hfraction' := fraction_lt hu
    unfold nanos at h
    omega
  rw [seconds_eq ht, seconds_eq hu, hday] at hseconds
  have hhour : t.hour = u.hour ∧ t.minute = u.minute ∧ t.second = u.second := by
    have hsecond := second_lt ht
    have hsecond' := second_lt hu
    have hminute := t.minute_lt
    have hminute' := u.minute_lt
    omega
  have hnano : t.nano = u.nano := by simpa [fraction, ht, hu] using hseconds.2
  obtain ⟨hhour, hminute, hsecond⟩ := hhour
  cases t
  cases u
  simp_all

/-- The seconds of a day that lies in the calendar are those of a point in time. -/
theorem exists_ofSeconds? {s : Int} {f : Nat} (hf : f < 1000000000)
    (hyear : Time.firstYear ≤ (Time.civil (s / 86400)).1 ∧
      (Time.civil (s / 86400)).1 ≤ Time.lastYear) :
    ∃ t, ofSeconds? s f = some t ∧ t.isLeap = false ∧ t.nanos = s * 1000000000 + f := by
  obtain ⟨⟨hmonth, hday⟩, hnumber⟩ := Time.civil_spec (s / 86400)
  have hfields : (s % 86400).toNat / 3600 < 24 ∧ (s % 86400).toNat / 60 % 60 < 60 ∧
      (s % 86400).toNat % 60 ≤ 60 ∧ f < 1000000000 := by omega
  have hleap : ¬(s % 86400).toNat % 60 = 60 := by omega
  refine ⟨⟨_, _, _, _, _, _, f, hyear, hmonth, hday, hfields.1, hfields.2.1, hfields.2.2.1, hf⟩,
    ?_, by simpa [isLeap] using hleap, ?_⟩
  · simp only [ofSeconds?, if_pos hf, ofFields?]
    rw [dif_pos ⟨hyear, hmonth, hday, hfields⟩]
  · simp only [nanos, seconds, fraction, isLeap, hleap, decide_false, Bool.false_eq_true, if_false,
      hnumber]
    omega

/-- What lies between two points in time is a point in time. -/
theorem exists_ofSeconds?_between {first last : Timestamp} (hfirst : first.isLeap = false)
    (hlast : last.isLeap = false) (hn : first.nanos ≤ n ∧ n ≤ last.nanos) :
    ∃ t, ofSeconds? (n / 1000000000) (n % 1000000000).toNat = some t ∧ t.isLeap = false ∧
      t.nanos = n := by
  obtain ⟨hdate, hnumber⟩ := Time.civil_spec (n / 1000000000 / 86400)
  have hyear : first.year ≤ (Time.civil (n / 1000000000 / 86400)).1 := by
    apply first.isDate.year_le hdate
    rw [hnumber, ← day_eq hfirst]
    omega
  have hyear' : (Time.civil (n / 1000000000 / 86400)).1 ≤ last.year := by
    apply hdate.year_le last.isDate
    rw [hnumber, ← day_eq hlast]
    omega
  obtain ⟨t, ht, hleap, hnanos⟩ := exists_ofSeconds? (s := n / 1000000000)
    (f := (n % 1000000000).toNat) (by omega)
    ⟨first.year_mem.1.trans hyear, hyear'.trans last.year_mem.2⟩
  exact ⟨t, ht, hleap, by omega⟩

/-! ### Steps -/

theorem nanosSince_eq {since : Timestamp} (ht : t.isLeap = false) (hsince : since.isLeap = false) :
    t.nanosSince since = t.nanos - since.nanos := by
  simp only [nanosSince, nanos, ht, hsince, Bool.false_eq_true, and_false, if_false]
  omega

theorem addMillis_eq (ht : t.isLeap = false) (ms : Int) :
    t.addMillis ms = ofSeconds? ((t.nanos + ms * 1000000) / 1000000000)
      ((t.nanos + ms * 1000000) % 1000000000).toNat := by
  have hms := Int.mul_tdiv_add_tmod ms 1000
  have htotal : (t.seconds + ms.tdiv 1000) * 1000000000 + t.fraction + ms.tmod 1000 * 1000000 =
      t.nanos + ms * 1000000 := by
    rw [nanos]
    omega
  simp only [addMillis, ht, Bool.false_eq_true, false_and, if_false, htotal]

/-- A step that ends between two points in time ends at a point in time. -/
theorem exists_addMillis {first last : Timestamp} {ms : Int} (ht : t.isLeap = false)
    (hfirst : first.isLeap = false) (hlast : last.isLeap = false)
    (hle : first.nanos ≤ t.nanos + ms * 1000000 ∧ t.nanos + ms * 1000000 ≤ last.nanos) :
    ∃ t', t.addMillis ms = some t' ∧ t'.isLeap = false ∧ t'.nanos = t.nanos + ms * 1000000 := by
  rw [addMillis_eq ht]
  exact exists_ofSeconds?_between hfirst hlast hle

theorem exists_addMillis_of_representable {ms : Int} (ht : t.isLeap = false)
    (h : Representable (t.nanos + ms * 1000000)) :
    ∃ t', t.addMillis ms = some t' ∧ t'.isLeap = false ∧ t'.nanos = t.nanos + ms * 1000000 := by
  obtain ⟨u, hu, hnanos⟩ := h
  apply exists_addMillis ht hu hu
  omega

/-- Cut down toward zero, a difference loses less than a millisecond and keeps its direction. -/
theorem tdiv_millis (d : Int) :
    min 0 d ≤ d.tdiv 1000000 * 1000000 ∧ d.tdiv 1000000 * 1000000 ≤ max 0 d ∧
      |d.tdiv 1000000 * 1000000 - d| < 1000000 := by
  rw [abs_lt]
  rcases le_total 0 d with hd | hd
  · rw [Int.tdiv_eq_ediv_of_nonneg hd]
    omega
  · obtain ⟨e, rfl⟩ : ∃ e, d = -e := ⟨-d, by omega⟩
    rw [Int.neg_tdiv, Int.tdiv_eq_ediv_of_nonneg (by omega)]
    omega

theorem nanos_mem (ht : t.isLeap = false) : -10 ^ 22 < t.nanos ∧ t.nanos < 10 ^ 22 := by
  have hfirst := t.isDate.year_start_le
  have hlast := t.isDate.lt_year_end
  rw [Time.dayNumber_of_le_two (m := 1) (by omega), ← day_eq ht] at hfirst hlast
  have hge : -262143 ≤ t.year := t.year_mem.1
  have hle : t.year ≤ 262142 := t.year_mem.2
  constructor <;> omega

/-- The milliseconds between two points in time fit into 64 bits. -/
theorem millisSince_mem {since : Timestamp} (ht : t.isLeap = false) (hsince : since.isLeap = false) :
    -2 ^ 63 ≤ t.millisSince since ∧ t.millisSince since < 2 ^ 63 := by
  have hlater := nanos_mem ht
  have hearlier := nanos_mem hsince
  have hmillis := tdiv_millis (t.nanos - since.nanos)
  rw [millisSince, nanosSince_eq ht hsince]
  omega

end Timestamp

namespace ClockOffset

open CommandLine.PollerProgram

variable {master now : Timestamp}

/-- Without an alignment the local clock is taken as it is. -/
theorem adjust_none (hnow : now.isLeap = false) : none.adjust now = some now := by
  obtain ⟨t, ht, hleap, hnanos⟩ := Timestamp.exists_addMillis hnow hnow hnow
    (show now.nanos ≤ now.nanos + none.ms * 1000000 ∧ now.nanos + none.ms * 1000000 ≤ now.nanos by
      simp [none])
  have heq : t = now := Timestamp.eq_of_nanos_eq hleap hnow (by simpa [none] using hnanos)
  rw [adjust, ht, heq]

theorem align_ms (hmaster : master.isLeap = false) (hnow : now.isLeap = false) :
    (align master now).ms = (master.nanos - now.nanos).tdiv 1000000 := by
  rw [align, Timestamp.millisSince, Timestamp.nanosSince_eq hmaster hnow]

/-- The clock that is aligned with the backend's shows at the time of the alignment, to the millisecond,
the backend's time, and never a time that neither clock has reached; it preserves the distances of local
times, and an alignment leaves nothing of the one before. -/
theorem align_accurate (hmaster : master.isLeap = false) (hnow : now.isLeap = false) :
    (∃ t, (align master now).adjust now = some t ∧ t.isLeap = false ∧
      min now.nanos master.nanos ≤ t.nanos ∧ t.nanos ≤ max now.nanos master.nanos ∧
      |t.nanos - master.nanos| < 1000000) ∧
    (∀ x y : Timestamp, x.isLeap = false → y.isLeap = false →
      Timestamp.Representable (x.nanos + (align master now).ms * 1000000) →
      Timestamp.Representable (y.nanos + (align master now).ms * 1000000) →
      ∃ x' y', (align master now).adjust x = some x' ∧ (align master now).adjust y = some y' ∧
        x'.isLeap = false ∧ y'.isLeap = false ∧ x'.nanos - y'.nanos = x.nanos - y.nanos) ∧
    ∀ {σ : Type} (system : CommandLine.System (StateM σ)) (setup : Setup) (tools : Tools) (w : σ),
      ((answer system setup (.alignClock master)).run tools).run.run w =
        (.ok ((), { tools with offset := align master (system.wallClock.run w).1 }),
          (system.wallClock.run w).2) := by
  have hms := align_ms hmaster hnow
  refine ⟨?_, ?_, ?_⟩
  · obtain ⟨hmin, hmax, herror⟩ := Timestamp.tdiv_millis (master.nanos - now.nanos)
    rw [← hms] at hmin hmax herror
    have hadjust : ∃ t, (align master now).adjust now = some t ∧ t.isLeap = false ∧
        t.nanos = now.nanos + (align master now).ms * 1000000 := by
      rcases le_total now.nanos master.nanos with hahead | hbehind
      · exact Timestamp.exists_addMillis hnow hnow hmaster (by omega)
      · exact Timestamp.exists_addMillis hnow hmaster hnow (by omega)
    obtain ⟨t, ht, hleap, hnanos⟩ := hadjust
    have herr : t.nanos - master.nanos =
        (align master now).ms * 1000000 - (master.nanos - now.nanos) := by omega
    exact ⟨t, ht, hleap, by omega, by omega, herr ▸ herror⟩
  · intro x y hx hy hrepx hrepy
    obtain ⟨x', hx', hleapx, hnanosx⟩ := Timestamp.exists_addMillis_of_representable hx hrepx
    obtain ⟨y', hy', hleapy, hnanosy⟩ := Timestamp.exists_addMillis_of_representable hy hrepy
    refine ⟨x', y', hx', hy', hleapx, hleapy, ?_⟩
    omega
  · intro σ system setup tools w
    rfl

def midnight : Timestamp := (Timestamp.ofFields? 2024 3 1 0 0 0 0).get (by decide)

/-- A second and a half and a nanosecond before midnight. -/
def beforeMidnight : Timestamp := (Timestamp.ofFields? 2024 2 29 23 59 58 499999999).get (by decide)

/-- A clock that is aligned with one behind it shows a nanosecond more than that one. -/
theorem align_accurate_behind :
    beforeMidnight.isLeap = false ∧ midnight.isLeap = false ∧
      (∃ t, (align beforeMidnight midnight).adjust midnight = some t ∧
        beforeMidnight.nanos ≤ t.nanos ∧ |t.nanos - beforeMidnight.nanos| < 1000000) ∧
      ∃ x' y', (align beforeMidnight midnight).adjust midnight = some x' ∧
        (align beforeMidnight midnight).adjust beforeMidnight = some y' ∧
        x'.nanos - y'.nanos = 1500000001 := by
  have hms : (align beforeMidnight midnight).ms = -1500 := by decide
  have hrepx : Timestamp.Representable (midnight.nanos + -1500 * 1000000) :=
    ⟨(Timestamp.ofFields? 2024 2 29 23 59 58 500000000).get (by decide), by decide, by decide⟩
  have hrepy : Timestamp.Representable (beforeMidnight.nanos + -1500 * 1000000) :=
    ⟨(Timestamp.ofFields? 2024 2 29 23 59 56 999999999).get (by decide), by decide, by decide⟩
  obtain ⟨⟨t, ht, -, hmin, -, herror⟩, hdistance, -⟩ :=
    align_accurate (show beforeMidnight.isLeap = false by decide)
      (show midnight.isLeap = false by decide)
  rw [hms] at hdistance
  obtain ⟨x', y', hx', hy', -, -, heq⟩ :=
    hdistance midnight beforeMidnight (by decide) (by decide) hrepx hrepy
  have hle : beforeMidnight.nanos ≤ min midnight.nanos beforeMidnight.nanos := by decide
  have hbetween : midnight.nanos - beforeMidnight.nanos = 1500000001 := by decide
  exact ⟨by decide, by decide, ⟨t, ht, hle.trans hmin, herror⟩, x', y', hx', hy',
    heq.trans hbetween⟩

end ClockOffset

end ServiceWatch
