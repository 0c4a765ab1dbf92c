import Mathlib.Algebra.Group.Nat.Defs
import Mathlib.Data.List.TakeDrop
import ServiceWatch.Text.Blank
import ServiceWatch.Text.Decimal
import ServiceWatch.Text.Hexadecimal
import ServiceWatch.Text.Word

/-! The digits of a number stand for that number, and there are as few of them as can be. -/
namespace ServiceWatch.Text

/-- Where one digit more stands for one factor more, there are no more digits than factors. -/
theorem length_le_of_lt_pow {base : Nat} {digits : Nat → List Char}
    (hone : ∀ n < base, (digits n).length = 1)
    (hmore : ∀ n, base ≤ n → (digits n).length = (digits (n / base)).length + 1) {n k : Nat}
    (hk : 0 < k) (h : n < base ^ k) : (digits n).length ≤ k := by
  induction k generalizing n with
  | zero => contradiction
  | succ k ih =>
    by_cases hn : n < base
    · rw [hone n hn]
      omega
    · have hpos : 0 < k := by
        rcases Nat.eq_zero_or_pos k with rfl | hpos
        · rw [Nat.zero_add, Nat.pow_one] at h
          contradiction
        · exact hpos
      have hrest : n / base < base ^ k := by
        rw [Nat.pow_succ, Nat.mul_comm] at h
        exact Nat.div_lt_of_lt_mul h
      rw [hmore n (by omega)]
      exact Nat.succ_le_succ (ih hpos hrest)

theorem isBlank_of_isDigit {c : Char} (hc : c.isDigit = true) : isBlank c = false := by
  simp only [Char.isDigit, Bool.and_eq_true, decide_eq_true_eq, ge_iff_le, UInt32.le_iff_toNat_le] at hc
  have hn : c.toNat = c.val.toNat := rfl
  have h48 : '0'.val.toNat = 48 := rfl
  have h57 : '9'.val.toNat = 57 := rfl
  simp [isBlank]
  omega

namespace Decimal

variable {n : Nat} {c : Char}

theorem digitChar_spec : ∀ d < 10, (digitChar d).isDigit = true ∧ digitValue (digitChar d) = d := by
  decide

theorem digits_of_lt (h : n < 10) : digits n = [digitChar n] := by
  rw [digits, if_pos h]

theorem digits_of_le (h : 10 ≤ n) : digits n = digits (n / 10) ++ [digitChar (n % 10)] := by
  rw [digits, if_neg (by omega)]

theorem digits_ne_nil (n : Nat) : digits n ≠ [] := by
  rw [digits]
  split <;> simp

theorem isDigit_of_mem_digits (h : c ∈ digits n) : c.isDigit = true := by
  induction n using digits.induct with
  | case1 n hn =>
    rw [digits_of_lt hn, List.mem_singleton] at h
    rw [h]
    exact (digitChar_spec n hn).1
  | case2 n hn ih =>
    rw [digits_of_le (by omega)] at h
    rcases List.mem_append.1 h with h | h
    · exact ih h
    · rw [List.mem_singleton.1 h]
      exact (digitChar_spec (n % 10) (Nat.mod_lt n (by decide))).1

theorem valueFrom_append (start : Nat) (ds es : List Char) :
    valueFrom start (ds ++ es) = valueFrom (valueFrom start ds) es := List.foldl_append

theorem le_valueFrom (start : Nat) (ds : List Char) : start ≤ valueFrom start ds := by
  induction ds generalizing start with
  | nil => exact Nat.le_refl start
  | cons d ds ih =>
    refine Nat.le_trans ?_ (ih (10 * start + digitValue d))
    omega

theorem value_digits (n : Nat) : value (digits n) = n := by
  induction n using digits.induct with
  | case1 n hn =>
    rw [digits_of_lt hn]
    simp [value, valueFrom, (digitChar_spec n hn).2]
  | case2 n hn ih =>
    have hlast := (digitChar_spec (n % 10) (Nat.mod_lt n (by decide))).2
    rw [digits_of_le (by omega), value, valueFrom_append]
    unfold value at ih
    rw [ih]
    simp only [valueFrom, List.foldl_cons, List.foldl_nil, hlast]
    omega

/-- Only zero starts with a zero. -/
theorem eq_zero_of_head?_digits (h : (digits n).head? = some '0') : n = 0 := by
  induction n using digits.induct with
  | case1 n hn =>
    rw [digits_of_lt hn] at h
    have hd : digitChar n = '0' := by simpa using h
    rw [← (digitChar_spec n hn).2, hd]
    rfl
  | case2 n hn ih =>
    have hfront : (digits (n / 10)).head? = some '0' := by
      rw [digits_of_le (by omega), List.head?_append] at h
      cases hd : digits (n / 10) with
      | nil => exact absurd hd (digits_ne_nil _)
      | cons d ds => rwa [hd] at h
    have := ih hfront
    omega

theorem length_digits_le {k : Nat} (hk : 0 < k) (h : n < 10 ^ k) : (digits n).length ≤ k := by
  refine length_le_of_lt_pow (fun n hn => ?_) (fun n hn => ?_) hk h
  · rw [digits_of_lt hn]
    rfl
  · rw [digits_of_le hn, List.length_append]
    rfl

theorem isDigit_of_mem_padded {width : Nat} (h : c ∈ padded width n) : c.isDigit = true := by
  rcases List.mem_append.1 h with h | h
  · rw [List.eq_of_mem_replicate h]
    rfl
  · exact isDigit_of_mem_digits h

theorem value_padded (width n : Nat) : value (padded width n) = n := by
  have hzeros (k : Nat) : valueFrom 0 (List.replicate k '0') = 0 := by
    induction k with
    | zero => rfl
    | succ k ih => exact ih
  rw [value, padded, valueFrom_append, hzeros]
  exact value_digits n

theorem padded_ne_nil (width n : Nat) : padded width n ≠ [] := by
  simp [padded, digits_ne_nil]

theorem length_padded_le {width k : Nat} (hwidth : width ≤ k) (hk : 0 < k) (h : n < 10 ^ k) :
    (padded width n).length ≤ k := by
  have hle := length_digits_le hk h
  simp only [padded, List.length_append, List.length_replicate]
  omega

theorem length_padded {width : Nat} (hw : 0 < width) (h : n < 10 ^ width) :
    (padded width n).length = width := by
  have hle := length_digits_le hw h
  simp only [padded, List.length_append, List.length_replicate]
  omega

/-- A text that does not go on with a digit. -/
def Stops (rest : List Char) : Prop := ∀ c ∈ rest.head?, c.isDigit = false

theorem stops_cons (hc : c.isDigit = false) (rest : List Char) : Stops (c :: rest) := by
  rintro _ ⟨⟩
  exact hc

section

variable {ds rest : List Char} (hds : ∀ c ∈ ds, c.isDigit = true) (hr : Stops rest)
include hds hr

theorem takeWhile_append : (ds ++ rest).takeWhile Char.isDigit = ds := by
  rw [List.takeWhile_append_of_pos hds]
  cases rest with
  | nil => simp
  | cons c rest => simp [show c.isDigit = false from hr c rfl]

theorem dropWhile_append : (ds ++ rest).dropWhile Char.isDigit = rest := by
  rw [List.dropWhile_append_of_pos hds]
  cases rest with
  | nil => rfl
  | cons c rest => simp [show c.isDigit = false from hr c rfl]

theorem span_append : (ds ++ rest).span Char.isDigit = (ds, rest) := by
  rw [List.span_eq_takeWhile_dropWhile, takeWhile_append hds hr, dropWhile_append hds hr]

end

end Decimal

namespace Hexadecimal

variable {n : Nat} {c : Char}

theorem digitValue?_digitChar : ∀ d < 16, digitValue? (digitChar d) = some d := by decide

theorem digits_of_lt (h : n < 16) : digits n = [digitChar n] := by
  rw [digits, if_pos h]

theorem digits_of_le (h : 16 ≤ n) : digits n = digits (n / 16) ++ [digitChar (n % 16)] := by
  rw [digits, if_neg (by omega)]

theorem digits_ne_nil (n : Nat) : digits n ≠ [] := by
  rw [digits]
  split <;> simp

theorem isSome_of_mem_digits (h : c ∈ digits n) : (digitValue? c).isSome = true := by
  induction n using digits.induct with
  | case1 n hn =>
    rw [digits_of_lt hn, List.mem_singleton] at h
    rw [h, digitValue?_digitChar n hn]
    rfl
  | case2 n hn ih =>
    rw [digits_of_le (by omega)] at h
    rcases List.mem_append.1 h with h | h
    · exact ih h
    · rw [List.mem_singleton.1 h, digitValue?_digitChar (n % 16) (Nat.mod_lt n (by decide))]
      rfl

theorem isSome_of_isDigit (h : c.isDigit = true) : (digitValue? c).isSome = true := by
  have hc : '0' ≤ c ∧ c ≤ '9' := by simpa [Char.isDigit, Char.le_def] using h
  rw [digitValue?, if_pos hc]
  rfl

theorem value?_digits (n : Nat) : value? (digits n) = some n := by
  induction n using digits.induct with
  | case1 n hn =>
    rw [digits_of_lt hn]
    simp [value?, digitValue?_digitChar n hn]
  | case2 n hn ih =>
    have hlast := digitValue?_digitChar (n % 16) (Nat.mod_lt n (by decide))
    unfold value? at ih
    rw [digits_of_le (by omega), value?, List.foldlM_append, ih]
    simp only [Option.bind_eq_bind, Option.bind_some, List.foldlM_cons, List.foldlM_nil, hlast,
      Option.map_some, Option.pure_def, Option.some.injEq]
    omega

theorem length_digits_le {k : Nat} (hk : 0 < k) (h : n < 16 ^ k) : (digits n).length ≤ k := by
  refine length_le_of_lt_pow (fun n hn => ?_) (fun n hn => ?_) hk h
  · rw [digits_of_lt hn]
    rfl
  · rw [digits_of_le hn, List.length_append]
    rfl

/-- A number of two digits, with zeros in front. -/
theorem padded_four (h : n < 256) :
    padded 4 n = ['0', '0', digitChar (n / 16), digitChar (n % 16)] := by
  unfold padded
  rw [digits]
  split
  · rename_i hn
    rw [Nat.div_eq_of_lt hn, Nat.mod_eq_of_lt hn]
    rfl
  · have hn : n / 16 < 16 := by omega
    rw [digits, if_pos hn]
    rfl

end Hexadecimal

namespace Word

variable {cs : List Char}

/-- Digits, perhaps with a plus sign in front, are the decimal form of a number. -/
def Denotes (cs : List Char) (n : UInt16) : Prop :=
  ∃ ds : List Char, (cs = ds ∨ cs = '+' :: ds) ∧ ds ≠ [] ∧ (∀ c ∈ ds, c.isDigit = true) ∧
    Decimal.value ds = n.toNat

theorem readDigits_eq_ok {start n : Nat} (hs : start < 65536) : readDigits start cs = .ok n ↔
    (∀ c ∈ cs, c.isDigit = true) ∧ Decimal.valueFrom start cs = n ∧ n < 65536 := by
  induction cs generalizing start with
  | nil =>
    simp only [readDigits, Except.ok.injEq, Decimal.valueFrom, List.foldl_nil, List.not_mem_nil]
    grind
  | cons c cs ih =>
    have hvalue : Decimal.valueFrom start (c :: cs) =
        Decimal.valueFrom (start * 10 + Decimal.digitValue c) cs := by
      rw [Nat.mul_comm]
      rfl
    have hle := Decimal.le_valueFrom (start * 10 + Decimal.digitValue c) cs
    rw [readDigits, hvalue, List.forall_mem_cons]
    cases hc : c.isDigit with
    | false => simp
    | true =>
      simp only [Bool.not_true, Bool.false_eq_true, if_false, true_and]
      by_cases hn : start * 10 + Decimal.digitValue c < 65536
      · rw [if_pos hn, ih hn]
      · rw [if_neg hn]
        refine ⟨nofun, fun ⟨_, h, hlt⟩ => ?_⟩
        omega

/-- Digits are read as the number that they stand for. -/
theorem map_readDigits_eq_ok {n : UInt16} : (readDigits 0 cs).map Nat.toUInt16 = .ok n ↔
    (∀ c ∈ cs, c.isDigit = true) ∧ Decimal.value cs = n.toNat := by
  have hdigits (k : Nat) := @readDigits_eq_ok cs 0 k (by decide)
  cases h : readDigits 0 cs with
  | error fault =>
    refine ⟨nofun, fun ⟨hall, hvalue⟩ => ?_⟩
    have hok := (hdigits n.toNat).2 ⟨hall, hvalue, n.toNat_lt⟩
    rw [h] at hok
    contradiction
  | ok k =>
    obtain ⟨hall, hvalue, hlt⟩ := (hdigits k).1 h
    have hk : k.toUInt16.toNat = k := Nat.mod_eq_of_lt hlt
    rw [Except.map, Except.ok.injEq, and_iff_right hall, Decimal.value, hvalue]
    refine ⟨fun hn => by rw [← hn, hk], fun hn => ?_⟩
    rw [hn]
    exact n.ofNat_toNat

/-- Just the decimal forms of numbers are read. -/
theorem read_eq_ok {n : UInt16} : read cs = .ok n ↔ Denotes cs n := by
  unfold Denotes read
  split
  · simp
  · simp
  · rename_i rest hrest
    rw [map_readDigits_eq_ok]
    constructor
    · rintro ⟨hall, hvalue⟩
      exact ⟨rest, .inr rfl, hrest, hall, hvalue⟩
    · rintro ⟨ds, rfl | hds, hne, hall, hvalue⟩
      · exact absurd (hall '+' List.mem_cons_self) (by decide)
      · obtain rfl := (List.cons.inj hds).2
        exact ⟨hall, hvalue⟩
  · rename_i hnil hplus hother
    rw [map_readDigits_eq_ok]
    constructor
    · rintro ⟨hall, hvalue⟩
      exact ⟨cs, .inl rfl, hnil, hall, hvalue⟩
    · rintro ⟨ds, rfl | rfl, hne, hall, hvalue⟩
      · exact ⟨hall, hvalue⟩
      · exact absurd rfl (hother ds)

end Word

end ServiceWatch.Text
