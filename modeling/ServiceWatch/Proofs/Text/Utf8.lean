import Mathlib.Data.List.Basic
import ServiceWatch.Text.Utf8

/-! The bytes of a string are well-formed UTF-8, and decoding them gives its characters back. -/
namespace ServiceWatch.Text.Utf8

theorem toList_loop (bytes : ByteArray) (i : Nat) (front : List UInt8) :
    ByteArray.toList.loop bytes i front = front.reverse ++ bytes.data.toList.drop i := by
  rw [ByteArray.toList.loop]
  split
  · rename_i hi
    have hget : bytes.data.toList.drop i = bytes.get! i :: bytes.data.toList.drop (i + 1) := by
      have hlen : i < bytes.data.toList.length := hi
      rw [List.drop_eq_getElem_cons hlen]
      congr 1
      simp [ByteArray.get!, hi]
    rw [toList_loop bytes (i + 1), hget]
    simp
  · rename_i hi
    have hlen : bytes.data.toList.length ≤ i := Nat.not_lt.1 hi
    rw [List.drop_eq_nil_of_le hlen, List.append_nil]
termination_by bytes.size - i

theorem toList_toUTF8 (s : String) : s.toUTF8.toList = s.toList.flatMap String.utf8EncodeChar := by
  have hbytes : s.toUTF8 = s.toList.utf8Encode := by
    conv_lhs => rw [← String.ofList_toList (s := s)]
    exact String.toByteArray_ofList
  rw [hbytes]
  unfold ByteArray.toList List.utf8Encode
  rw [toList_loop, List.data_toByteArray]
  simp

theorem toNat_ofNat_of_lt {n : Nat} (h : n < 256) : (UInt8.ofNat n).toNat = n := by
  rw [UInt8.toNat_ofNat']
  omega

/-! ### One character -/

section Lead

variable {n : Nat}

theorem lead?_one (hi : n ≤ 0x7F) : lead? (UInt8.ofNat n) = some (1, 0x80, 0xBF) := by
  have hn : (UInt8.ofNat n).toNat = n := toNat_ofNat_of_lt (by omega)
  unfold lead?
  rw [if_pos]
  rw [UInt8.lt_iff_toNat_lt, hn]
  exact Nat.lt_succ_of_le hi

theorem lead?_two (lo : 0xC2 ≤ n) (hi : n ≤ 0xDF) :
    lead? (UInt8.ofNat n) = some (2, 0x80, 0xBF) := by
  have hn : (UInt8.ofNat n).toNat = n := toNat_ofNat_of_lt (by omega)
  simp only [lead?, UInt8.lt_iff_toNat_lt, UInt8.le_iff_toNat_le, UInt8.reduceToNat, hn]
  rw [if_neg (by omega), if_pos (by omega)]

theorem lead?_three (lo : 0xE0 ≤ n) (hi : n ≤ 0xEF) : lead? (UInt8.ofNat n) =
    some (3, if n = 0xE0 then 0xA0 else 0x80, if n = 0xED then 0x9F else 0xBF) := by
  have hn : (UInt8.ofNat n).toNat = n := toNat_ofNat_of_lt (by omega)
  simp only [lead?, UInt8.lt_iff_toNat_lt, UInt8.le_iff_toNat_le, ← UInt8.toNat_inj,
    UInt8.reduceToNat, hn]
  grind

theorem lead?_four (lo : 0xF0 ≤ n) (hi : n ≤ 0xF4) : lead? (UInt8.ofNat n) =
    some (4, if n = 0xF0 then 0x90 else 0x80, if n = 0xF4 then 0x8F else 0xBF) := by
  have hn : (UInt8.ofNat n).toNat = n := toNat_ofNat_of_lt (by omega)
  simp only [lead?, UInt8.lt_iff_toNat_lt, UInt8.le_iff_toNat_le, ← UInt8.toNat_inj,
    UInt8.reduceToNat, hn]
  grind

end Lead

/-- A continuation byte in its range adds six bits. -/
theorem continued_cons {lo hi : UInt8} {value left bits : Nat} {bytes : List UInt8}
    (hb : bits < 64) (hlo : lo.toNat ≤ bits + 128) (hhi : bits + 128 ≤ hi.toNat) :
    (continued lo hi value (left + 1) (UInt8.ofNat (bits + 128) :: bytes)).2 =
      (continued 0x80 0xBF (value * 64 + bits) left bytes).2 := by
  have hn : (UInt8.ofNat (bits + 128)).toNat = bits + 128 := toNat_ofNat_of_lt (by omega)
  have hin : lo ≤ UInt8.ofNat (bits + 128) ∧ UInt8.ofNat (bits + 128) ≤ hi := by
    rw [UInt8.le_iff_toNat_le, UInt8.le_iff_toNat_le, hn]
    exact ⟨hlo, hhi⟩
  rw [continued, if_pos hin, hn, show bits + 128 - 0x80 = bits from Nat.add_sub_cancel ..]

theorem step_eq_ok {b lo hi : UInt8} {bytes : List UInt8} {length value : Nat}
    (hl : lead? b = some (length, lo, hi))
    (hc : (continued lo hi (leadBits length b) (length - 1) bytes).2 = some value) :
    step b bytes = .ok (Char.ofNat value, length) := by
  unfold step
  rw [hl]
  dsimp only
  generalize continued lo hi (leadBits length b) (length - 1) bytes = taken at hc
  obtain ⟨good, result⟩ := taken
  cases hc
  rfl

section Encoded

variable {v : Nat} (rest : List UInt8)

theorem step_one (hi : v ≤ 0x7F) : step (UInt8.ofNat v) rest = .ok (Char.ofNat v, 1) := by
  have hn : (UInt8.ofNat v).toNat = v := toNat_ofNat_of_lt (by omega)
  apply step_eq_ok (lead?_one hi)
  exact congrArg some hn

theorem step_two (lo : 0x7F < v) (hi : v ≤ 0x7FF) :
    step (UInt8.ofNat (v / 64 % 32 + 192)) (UInt8.ofNat (v % 64 + 128) :: rest) =
      .ok (Char.ofNat v, 2) := by
  have hn : (UInt8.ofNat (v / 64 % 32 + 192)).toNat = v / 64 % 32 + 192 :=
    toNat_ofNat_of_lt (by omega)
  have hsum : (v / 64 % 32 + 192 - 0xC0) * 64 + v % 64 = v := by omega
  apply step_eq_ok (lead?_two (by omega) (by omega))
  unfold leadBits
  rw [hn, continued_cons (by omega) (Nat.le_add_left ..) (show _ ≤ 191 by omega)]
  exact congrArg some hsum

theorem step_three (lo : 0x7FF < v) (hi : v ≤ 0xFFFF) (hv : v < 0xD800 ∨ 0xDFFF < v) :
    step (UInt8.ofNat (v / 4096 % 16 + 224))
        (UInt8.ofNat (v / 64 % 64 + 128) :: UInt8.ofNat (v % 64 + 128) :: rest) =
      .ok (Char.ofNat v, 3) := by
  have hn : (UInt8.ofNat (v / 4096 % 16 + 224)).toNat = v / 4096 % 16 + 224 :=
    toNat_ofNat_of_lt (by omega)
  have hsum : ((v / 4096 % 16 + 224 - 0xE0) * 64 + v / 64 % 64) * 64 + v % 64 = v := by omega
  apply step_eq_ok (lead?_three (by omega) (by omega))
  unfold leadBits
  rw [hn, continued_cons (by omega), continued_cons (by omega) (Nat.le_add_left ..)
    (show _ ≤ 191 by omega)]
  · exact congrArg some hsum
  · split
    · change 160 ≤ _
      omega
    · exact Nat.le_add_left ..
  · split
    · change _ ≤ 159
      omega
    · change _ ≤ 191
      omega

theorem step_four (lo : 0xFFFF < v) (hi : v < 0x110000) :
    step (UInt8.ofNat (v / 262144 % 8 + 240)) (UInt8.ofNat (v / 4096 % 64 + 128) ::
        UInt8.ofNat (v / 64 % 64 + 128) :: UInt8.ofNat (v % 64 + 128) :: rest) =
      .ok (Char.ofNat v, 4) := by
  have hn : (UInt8.ofNat (v / 262144 % 8 + 240)).toNat = v / 262144 % 8 + 240 :=
    toNat_ofNat_of_lt (by omega)
  have hsum : (((v / 262144 % 8 + 240 - 0xF0) * 64 + v / 4096 % 64) * 64 + v / 64 % 64) * 64 +
      v % 64 = v := by omega
  apply step_eq_ok (lead?_four (by omega) (by omega))
  unfold leadBits
  rw [hn, continued_cons (by omega), continued_cons (by omega) (Nat.le_add_left ..)
    (show _ ≤ 191 by omega), continued_cons (by omega) (Nat.le_add_left ..) (show _ ≤ 191 by omega)]
  · exact congrArg some hsum
  · split
    · change 144 ≤ _
      omega
    · exact Nat.le_add_left ..
  · split
    · change _ ≤ 143
      omega
    · change _ ≤ 191
      omega

end Encoded

/-- The bytes of a character are read as that character, whatever follows them. -/
theorem step_utf8EncodeChar (c : Char) :
    ∃ b bytes, String.utf8EncodeChar c = b :: bytes ∧
      ∀ rest, step b (bytes ++ rest) = .ok (c, bytes.length + 1) := by
  have hvalid : c.toNat < 0xD800 ∨ 0xDFFF < c.toNat ∧ c.toNat < 0x110000 := c.valid
  have hc : Char.ofNat c.toNat = c := Char.ofNat_toNat c
  have hv : c.val.toNat = c.toNat := rfl
  unfold String.utf8EncodeChar
  dsimp only
  rw [hv]
  generalize c.toNat = v at hvalid hc ⊢
  subst hc
  by_cases h1 : v ≤ 0x7F
  · rw [if_pos h1]
    exact ⟨_, [], rfl, fun rest => step_one rest h1⟩
  rw [if_neg h1]
  by_cases h2 : v ≤ 0x7FF
  · rw [if_pos h2]
    exact ⟨_, [_], rfl, fun rest => step_two rest (by omega) h2⟩
  rw [if_neg h2]
  by_cases h3 : v ≤ 0xFFFF
  · rw [if_pos h3]
    exact ⟨_, [_, _], rfl, fun rest => step_three rest (by omega) h3 (by omega)⟩
  rw [if_neg h3]
  exact ⟨_, [_, _, _], rfl, fun rest => step_four rest (by omega) (by omega)⟩

/-- A byte of one-byte text is part of no other character. -/
theorem toNat_of_mem_utf8EncodeChar {b : UInt8} {c : Char} (hb : b.toNat < 0x80)
    (h : b ∈ String.utf8EncodeChar c) : c.toNat = b.toNat := by
  have hhigh {n : Nat} (hlo : 0x80 ≤ n) (hhi : n < 0x100) : b ≠ UInt8.ofNat n := by
    rintro rfl
    rw [toNat_ofNat_of_lt hhi] at hb
    omega
  have hv : c.val.toNat = c.toNat := rfl
  unfold String.utf8EncodeChar at h
  dsimp only at h
  rw [hv] at h
  generalize c.toNat = v at h ⊢
  split at h
  · rw [List.mem_singleton.1 h, toNat_ofNat_of_lt (by omega)]
  · have hlead2 : b ≠ UInt8.ofNat (v / 64 % 32 + 192) := hhigh (by omega) (by omega)
    have hlead3 : b ≠ UInt8.ofNat (v / 4096 % 16 + 224) := hhigh (by omega) (by omega)
    have hlead4 : b ≠ UInt8.ofNat (v / 262144 % 8 + 240) := hhigh (by omega) (by omega)
    have hnext (n : Nat) : b ≠ UInt8.ofNat (n % 64 + 128) := hhigh (by omega) (by omega)
    split at h
    · simp only [List.mem_cons, List.not_mem_nil, or_false] at h
      exact absurd h (not_or.2 ⟨hlead2, hnext _⟩)
    · split at h
      · simp only [List.mem_cons, List.not_mem_nil, or_false] at h
        exact absurd h (not_or.2 ⟨hlead3, not_or.2 ⟨hnext _, hnext _⟩⟩)
      · simp only [List.mem_cons, List.not_mem_nil, or_false] at h
        exact absurd h (not_or.2 ⟨hlead4, not_or.2 ⟨hnext _, not_or.2 ⟨hnext _, hnext _⟩⟩⟩)

/-! ### Texts -/

theorem go_utf8EncodeChar (cs : List Char) {fuel : Nat} (position : Nat)
    (hf : (cs.flatMap String.utf8EncodeChar).length ≤ fuel) :
    decode.go fuel position (cs.flatMap String.utf8EncodeChar) = .ok cs := by
  induction cs generalizing fuel position with
  | nil =>
    rw [List.flatMap_nil]
    cases fuel <;> rfl
  | cons c cs ih =>
    obtain ⟨b, bytes, hb, hstep⟩ := step_utf8EncodeChar c
    rw [List.flatMap_cons, hb] at hf ⊢
    rw [List.cons_append, List.length_cons, List.length_append] at hf
    cases fuel with
    | zero => omega
    | succ fuel =>
      rw [List.cons_append, decode.go, hstep]
      dsimp only
      rw [Nat.add_sub_cancel, List.drop_left, ih _ (by omega)]
      rfl

/-- The bytes of a string are text, and it is the text of that string. -/
theorem decode_toUTF8 (s : String) : decode s.toUTF8.toList = .ok s.toList := by
  rw [toList_toUTF8]
  exact go_utf8EncodeChar s.toList 0 (Nat.le_refl _)

theorem newline_not_mem_toUTF8 {s : String} (h : '\n' ∉ s.toList) : 10 ∉ s.toUTF8.toList := by
  rw [toList_toUTF8]
  intro hmem
  obtain ⟨c, hc, hb⟩ := List.mem_flatMap.1 hmem
  have hn : c.toNat = '\n'.toNat := toNat_of_mem_utf8EncodeChar (by decide) hb
  rw [Char.toNat_inj.1 hn] at hc
  exact h hc

end ServiceWatch.Text.Utf8
