import Mathlib.Tactic.SplitIfs
import ServiceWatch.Proofs.Text.Digits
import ServiceWatch.Time.Reader

/-!
The text of a point in time reads as that point in time: each part of the text is read up to its end,
whatever stands behind it, if this does not go on with digits.
-/
namespace ServiceWatch.Timestamp

open ServiceWatch.Text
open ServiceWatch.Text.Decimal

/-! ### Digits -/

theorem trimLeft_cons {c : Char} (hc : isBlank c = false) (cs : List Char) :
    trimLeft (c :: cs) = c :: cs := List.dropWhile_cons_of_neg (by simp [hc])

section

variable {ds rest : List Char} {width : Option Nat}

theorem takeWhile_take {k : Nat} (hds : ∀ c ∈ ds, c.isDigit = true) (hk : ds.length ≤ k)
    (hr : Stops rest) : ((ds ++ rest).take k).takeWhile Char.isDigit = ds := by
  rw [List.take_append, List.take_of_length_le hk]
  refine takeWhile_append hds fun c hc => ?_
  cases rest with
  | nil => simp at hc
  | cons d rest =>
    refine hr c ?_
    cases h : k - ds.length with
    | zero => simp [h] at hc
    | succ k => simpa [h] using hc

theorem takeDigits_append (hds : ∀ c ∈ ds, c.isDigit = true) (hwidth : ∀ k ∈ width, ds.length ≤ k)
    (hr : Stops rest) : takeDigits width (ds ++ rest) = (ds, rest) := by
  cases width with
  | none => exact span_append hds hr
  | some k => simp [takeDigits, takeWhile_take hds (hwidth k rfl) hr]

theorem readNumber_append (hds : ∀ c ∈ ds, c.isDigit = true) (hne : ds ≠ [])
    (hwidth : ∀ k ∈ width, ds.length ≤ k) (hvalue : value ds ≤ numberLimit) (hr : Stops rest) :
    readNumber width (ds ++ rest) = .ok (value ds, rest) := by
  obtain ⟨d, ds, rfl⟩ := List.exists_cons_of_ne_nil hne
  simp only [readNumber, takeDigits_append hds hwidth hr, if_pos hvalue]

/-- A number with zeros in front is read up to its end. -/
theorem readNumber_padded {k n : Nat} (hwidth : ∀ w ∈ width, (padded k n).length ≤ w)
    (hn : n ≤ numberLimit) (hr : Stops rest) :
    readNumber width (padded k n ++ rest) = .ok (n, rest) := by
  have hvalue : value (padded k n) = n := value_padded k n
  have hread := readNumber_append (fun c hc => isDigit_of_mem_padded hc) (padded_ne_nil k n) hwidth
    (by rwa [hvalue]) hr
  rwa [hvalue] at hread

end

/-! ### Parts -/

section

variable {k n : Nat} {rest : List Char}

theorem exists_cons_padded (k n : Nat) :
    ∃ d ds, padded k n = d :: ds ∧ d.isDigit = true := by
  obtain ⟨d, ds, hd⟩ := List.exists_cons_of_ne_nil (padded_ne_nil k n)
  have hdigit : d ∈ padded k n := hd ▸ List.mem_cons_self
  exact ⟨d, ds, hd, isDigit_of_mem_padded hdigit⟩

theorem trimLeft_padded (k n : Nat) (rest : List Char) :
    trimLeft (padded k n ++ rest) = padded k n ++ rest := by
  obtain ⟨d, ds, hd, hdigit⟩ := exists_cons_padded k n
  rw [hd, List.cons_append, trimLeft_cons (isBlank_of_isDigit hdigit)]

theorem readYear_unsigned (hn : n ≤ 9999) (hr : Stops rest) :
    readYear (padded 4 n ++ rest) = .ok ((n : Int), rest) := by
  have hwidth : ∀ w ∈ some 4, (padded 4 n).length ≤ w := by
    rintro _ ⟨⟩
    exact length_padded_le (Nat.le_refl 4) (by decide) (by omega)
  have hread := readNumber_padded hwidth (by unfold numberLimit; omega) hr
  obtain ⟨d, ds, hd, hdigit⟩ := exists_cons_padded 4 n
  rw [readYear, trimLeft_padded]
  split
  · rename_i cs hcs
    rw [hd] at hcs
    obtain ⟨rfl, -⟩ := List.cons.inj hcs
    contradiction
  · rename_i cs hcs
    rw [hd] at hcs
    obtain ⟨rfl, -⟩ := List.cons.inj hcs
    contradiction
  · rw [hread]
    rfl

/-- A year comes back with its sign, however many digits it has. -/
theorem readYear_render {y : Int} (hy : Time.firstYear ≤ y ∧ y ≤ Time.lastYear) (hr : Stops rest) :
    readYear (renderYear y ++ rest) = .ok (y, rest) := by
  unfold Time.firstYear Time.lastYear at hy
  have hsigned {n : Nat} (hn : n ≤ 262143) :
      readNumber none (padded 4 n ++ rest) = .ok (n, rest) :=
    readNumber_padded (by simp) (by unfold numberLimit; omega) hr
  cases y with
  | ofNat n =>
    simp only [renderYear]
    split
    · exact readYear_unsigned ‹_› hr
    · have hle : n ≤ 262143 := by
        have : (n : Int) ≤ 262142 := hy.2
        omega
      have hread := hsigned hle
      rw [readYear, List.cons_append, trimLeft_cons (by decide)]
      simp only [hread]
      rfl
  | negSucc n =>
    have hread := hsigned (show n + 1 ≤ 262143 by omega)
    rw [renderYear, readYear, List.cons_append, trimLeft_cons (by decide)]
    simp only [hread]
    rfl

theorem readField_padded {least greatest : Nat} (hn : least ≤ n ∧ n ≤ greatest)
    (hgreatest : greatest < 100) (hr : Stops rest) :
    readField least greatest (padded 2 n ++ rest) = .ok (n, rest) := by
  have hwidth : ∀ w ∈ some 2, (padded 2 n).length ≤ w := by
    rintro _ ⟨⟩
    exact length_padded_le (Nat.le_refl 2) (by decide) (by omega)
  have hread := readNumber_padded hwidth (by unfold numberLimit; omega) hr
  rw [readField, trimLeft_padded, hread]
  exact if_pos hn

theorem readSeparator_cons {c : Char} (hc : isBlank c = false) (rest : List Char) :
    readSeparator c (c :: rest) = .ok rest := by
  rw [readSeparator, trimLeft_cons hc]
  exact if_pos rfl

theorem readFraction_padded (hk : 0 < k ∧ k ≤ 9) (hn : n < 10 ^ k) (hr : Stops rest) :
    readFraction ('.' :: (padded k n ++ rest)) = .ok (n * 10 ^ (9 - k), rest) := by
  have hds : ∀ c ∈ padded k n, c.isDigit = true := fun c hc => isDigit_of_mem_padded hc
  have hlength : (padded k n).length = k := length_padded hk.1 hn
  have hlimit : n ≤ numberLimit := by
    have hpow : 10 ^ k ≤ 10 ^ 9 := Nat.pow_le_pow_right (by decide) hk.2
    unfold numberLimit
    omega
  have hread : readNumber (some 9) (padded k n ++ rest) = .ok (n, rest) :=
    readNumber_padded (by simpa [hlength] using hk.2) hlimit hr
  have htake := takeWhile_take hds (hlength ▸ hk.2) hr
  have hdrop : ([] ++ rest).dropWhile Char.isDigit = rest := dropWhile_append (by simp) hr
  simp only [readFraction, hread, htake, value_padded, hlength]
  exact congrArg (fun rest => Except.ok (n * 10 ^ (9 - k), rest)) hdrop

/-- However many digits a fraction has, it comes back as nanoseconds. -/
theorem readFraction_render (hn : n < 1000000000) :
    readFraction (renderFraction n ++ ['Z']) = .ok (n, ['Z']) := by
  have hr : Stops ['Z'] := stops_cons (by decide) []
  unfold renderFraction
  split_ifs with hzero hmillis hmicros
  · rw [hzero]
    rfl
  · have hnano : n / 1000000 * 10 ^ (9 - 3) = n := by omega
    rw [List.cons_append, readFraction_padded ⟨by decide, by decide⟩ (by omega) hr, hnano]
  · have hnano : n / 1000 * 10 ^ (9 - 6) = n := by omega
    rw [List.cons_append, readFraction_padded ⟨by decide, by decide⟩ (by omega) hr, hnano]
  · have hnano : n * 10 ^ (9 - 9) = n := by omega
    rw [List.cons_append, readFraction_padded ⟨by decide, by decide⟩ (by omega) hr, hnano]

end

/-! ### Points in time -/

theorem ofFields?_eq_some (t : Timestamp) :
    ofFields? t.year t.month t.day t.hour t.minute t.second t.nano = some t :=
  dif_pos ⟨t.year_mem, t.month_mem, t.day_mem, t.hour_lt, t.minute_lt, t.second_le, t.nano_lt⟩

theorem readOffset_Z : readOffset ['Z'] = .ok (0, []) := rfl

theorem day_le (t : Timestamp) : t.day ≤ 31 := by
  have hday := t.day_mem.2
  unfold Time.daysInMonth at hday
  split at hday
  case h_1 => split at hday <;> omega
  all_goals omega

theorem stops_renderFraction (nano : Nat) : Stops (renderFraction nano ++ ['Z']) := by
  unfold renderFraction
  split_ifs <;> exact stops_cons rfl _

theorem read_render (t : Timestamp) : read t.render = .ok t := by
  have hdash (rest : List Char) : readSeparator '-' ('-' :: rest) = .ok rest :=
    readSeparator_cons rfl rest
  have hcolon (rest : List Char) : readSeparator ':' (':' :: rest) = .ok rest :=
    readSeparator_cons rfl rest
  have hyear (rest : List Char) :
      readYear (renderYear t.year ++ '-' :: rest) = .ok (t.year, '-' :: rest) :=
    readYear_render t.year_mem (stops_cons rfl rest)
  have hmonth (rest : List Char) :
      readField 1 12 (padded 2 t.month ++ '-' :: rest) = .ok (t.month, '-' :: rest) :=
    readField_padded t.month_mem (by decide) (stops_cons rfl rest)
  have hday (rest : List Char) :
      readField 1 31 (padded 2 t.day ++ 'T' :: rest) = .ok (t.day, 'T' :: rest) :=
    readField_padded ⟨t.day_mem.1, t.day_le⟩ (by decide) (stops_cons rfl rest)
  have hhour (rest : List Char) :
      readField 0 23 (padded 2 t.hour ++ ':' :: rest) = .ok (t.hour, ':' :: rest) :=
    readField_padded ⟨Nat.zero_le _, Nat.le_of_lt_succ t.hour_lt⟩ (by decide) (stops_cons rfl rest)
  have hminute (rest : List Char) :
      readField 0 59 (padded 2 t.minute ++ ':' :: rest) = .ok (t.minute, ':' :: rest) :=
    readField_padded ⟨Nat.zero_le _, Nat.le_of_lt_succ t.minute_lt⟩ (by decide) (stops_cons rfl rest)
  have hsecond : readField 0 60 (padded 2 t.second ++ (renderFraction t.nano ++ ['Z'])) =
      .ok (t.second, renderFraction t.nano ++ ['Z']) :=
    readField_padded ⟨Nat.zero_le _, t.second_le⟩ (by decide) (stops_renderFraction t.nano)
  have hrange : ¬(t.year < -0x80000000 ∨ 0x80000000 ≤ t.year) := by
    have hy := t.year_mem
    unfold Time.firstYear Time.lastYear at hy
    omega
  rw [read, render, hyear]
  simp only [bind, Except.bind, if_neg hrange, hdash, hmonth, hday, readDivider, hhour, hcolon, hminute,
    hsecond, readFraction_render t.nano_lt, readOffset_Z, ofFields?_eq_some]
  rfl

end ServiceWatch.Timestamp
