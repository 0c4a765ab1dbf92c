import Mathlib.Data.List.Basic
import ServiceWatch.Json.Decode
import ServiceWatch.Json.Writer
import ServiceWatch.Proofs.Text.Digits

/-! What is written between quotes is read as the text that it was written for. -/
namespace ServiceWatch.Json

namespace Escape

open ServiceWatch.Text

theorem unit?_digitChar {n : Nat} (h : n < 256) :
    unit? '0' '0' (Hexadecimal.digitChar (n / 16)) (Hexadecimal.digitChar (n % 16)) = some n := by
  have h1 := Hexadecimal.digitValue?_digitChar (n / 16) (by omega)
  have h2 := Hexadecimal.digitValue?_digitChar (n % 16) (by omega)
  have h0 : Hexadecimal.digitValue? '0' = some 0 := rfl
  simp only [unit?, Hexadecimal.value?, List.foldlM_cons, List.foldlM_nil, h0, h1, h2, Option.map_some,
    Option.bind_eq_bind, Option.bind_some, Option.pure_def, Option.some.injEq]
  omega

/-- The ways in which a character is written. -/
inductive Form (c : Char) : List Char → Prop where
  | letter {e : Char} (hu : e ≠ 'u') (he : short? e = some c) : Form c ['\\', e]
  | control (hc : c.toNat < 32) : Form c
      ['\\', 'u', '0', '0', Hexadecimal.digitChar (c.toNat / 16), Hexadecimal.digitChar (c.toNat % 16)]
  | plain (hquote : c ≠ '"') (hslash : c ≠ '\\') (hc : ¬ c.toNat < 32) : Form c [c]

theorem form_encodeChar (c : Char) : Form c (encodeChar c) := by
  have hchar {n : Nat} (hn : c.toNat = n) : Char.ofNat n = c := hn ▸ Char.ofNat_toNat c
  unfold encodeChar
  split_ifs with h1 h2 h3 h4 h5 h6 h7 h8
  · exact .letter (by decide) (congrArg some h1.symm)
  · exact .letter (by decide) (congrArg some h2.symm)
  · exact .letter (by decide) (congrArg some h3.symm)
  · exact .letter (by decide) (congrArg some h4.symm)
  · exact .letter (by decide) (congrArg some h5.symm)
  · exact .letter (by decide) (congrArg some (hchar h6))
  · exact .letter (by decide) (congrArg some (hchar h7))
  · rw [Hexadecimal.padded_four (by omega)]
    exact .control h8
  · exact .plain h1 h2 h8

theorem scan_form {c : Char} {written : List Char} (h : Form c written) (rest : List Char) :
    scan (written ++ rest) =
      (scan rest).map fun (raw, behind) => (written ++ raw, behind) := by
  cases h with
  | @letter e hu he =>
    have hs : (short? e).isSome := by rw [he]; rfl
    simp only [List.cons_append, List.nil_append]
    rw [scan, if_pos hs]
    intros
    contradiction
  | control hc =>
    have hdigit {d : Nat} (hd : d < 16) :
        (Hexadecimal.digitValue? (Hexadecimal.digitChar d)).isSome := by
      rw [Hexadecimal.digitValue?_digitChar d hd]; rfl
    have hall : ∀ d ∈ ['0', '0', Hexadecimal.digitChar (c.toNat / 16),
        Hexadecimal.digitChar (c.toNat % 16)], (Hexadecimal.digitValue? d).isSome := by
      simp [hdigit (show c.toNat / 16 < 16 by omega), hdigit (show c.toNat % 16 < 16 by omega)]
      decide
    simp only [List.cons_append, List.nil_append]
    rw [scan, if_pos (List.all_eq_true.2 hall)]
  | plain hquote hslash hc =>
    simp only [List.cons_append, List.nil_append]
    rw [scan, if_neg (by simp [hslash, hc])]
    all_goals
      intros
      contradiction

theorem decode_form {c : Char} {written : List Char} (h : Form c written) (rest : List Char) :
    decode (written ++ rest) = (decode rest).map (c :: ·) := by
  cases h with
  | @letter e hu he =>
    simp only [List.cons_append, List.nil_append]
    rw [decode, he]
    · rfl
    · intros
      contradiction
  | control hc =>
    have hu : isLeading c.toNat = false ∧ isTrailing c.toNat = false := by
      simp [isLeading, isTrailing]
      omega
    simp only [List.cons_append, List.nil_append]
    rw [decode, unit?_digitChar (by omega)]
    simp [hu, Char.ofNat_toNat]
  | plain hquote hslash hc =>
    simp only [List.cons_append, List.nil_append]
    rw [decode, if_neg hslash]
    all_goals
      intros
      contradiction

/-- The closing quote is found behind what is written for a text. -/
theorem scan_encode (cs rest : List Char) :
    scan (encode cs ++ '"' :: rest) = some (encode cs, rest) := by
  induction cs with
  | nil => rfl
  | cons c cs ih =>
    have hcons : encode (c :: cs) = encodeChar c ++ encode cs := List.flatMap_cons
    rw [hcons, List.append_assoc, scan_form (form_encodeChar c), ih]
    rfl

theorem decode_encode (cs : List Char) : decode (encode cs) = some cs := by
  induction cs with
  | nil => rfl
  | cons c cs ih =>
    have hcons : encode (c :: cs) = encodeChar c ++ encode cs := List.flatMap_cons
    rw [hcons, decode_form (form_encodeChar c), ih]
    rfl

end Escape

/-- A text is read from what is written for it. -/
theorem text?_encode (s : String) : text? (Escape.encode s.toList) = some s := by
  rw [text?, Escape.decode_encode, Option.map_some, String.ofList_toList]

theorem decodeStringAs_ofString (expected s : String) :
    decodeStringAs expected (ofString s) = .ok s := by
  simp only [ofString, decodeStringAs, text?_encode]

end ServiceWatch.Json
