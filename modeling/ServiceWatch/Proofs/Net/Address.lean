import Mathlib.Data.List.TakeWhile
import ServiceWatch.Net.Address
import ServiceWatch.Proofs.Text.Digits

/-! The canonical text of an address reads as that address. -/
namespace ServiceWatch.Address

open ServiceWatch.Text

/-! ### Bytes -/

theorem byte?_digits {n : Nat} (h : n < 256) : byte? (Decimal.digits n) = some n := by
  have hlength : (Decimal.digits n).length ≤ 3 := Decimal.length_digits_le (by decide) (by omega)
  have hempty : (Decimal.digits n).isEmpty = false := by simp [Decimal.digits_ne_nil]
  have hall : (Decimal.digits n).all Char.isDigit = true :=
    List.all_eq_true.2 fun c hc => Decimal.isDigit_of_mem_digits hc
  have hzero : ((Decimal.digits n).head? = some '0' && 1 < (Decimal.digits n).length) = false := by
    by_contra hb
    simp only [Bool.not_eq_false, Bool.and_eq_true, decide_eq_true_eq] at hb
    obtain ⟨hhead, hlength⟩ := hb
    rw [Decimal.eq_zero_of_head?_digits hhead, Decimal.digits_of_lt (by decide)] at hlength
    contradiction
  rw [byte?, if_neg (by simp [hempty, hall]; omega), hzero]
  simp [Decimal.value_digits, h]

theorem point_not_mem_digits (n : Nat) : '.' ∉ Decimal.digits n := fun h =>
  absurd (Decimal.isDigit_of_mem_digits h) (by decide)

theorem dotted_eq_join (a b c d : Nat) :
    dotted a b c d = join '.' ([a, b, c, d].map Decimal.digits) := rfl

theorem bytes?_dotted {a b c d : Nat} (ha : a < 256) (hb : b < 256) (hc : c < 256) (hd : d < 256) :
    bytes? (dotted a b c d) = some (a, b, c, d) := by
  have hsplit : split '.' (dotted a b c d) = [a, b, c, d].map Decimal.digits := by
    rw [dotted_eq_join]
    refine split_join (by simp) fun part hpart => ?_
    obtain ⟨n, -, rfl⟩ := List.mem_map.1 hpart
    exact point_not_mem_digits n
  simp [bytes?, hsplit, byte?_digits ha, byte?_digits hb, byte?_digits hc, byte?_digits hd]

theorem all_isDigit_of_byte? {cs : List Char} {n : Nat} (h : byte? cs = some n) :
    ∀ c ∈ cs, c.isDigit = true := by
  rw [byte?] at h
  split at h
  · contradiction
  · rename_i hcs
    simp only [Bool.or_eq_true, not_or, Bool.not_eq_true', Bool.not_eq_false] at hcs
    exact List.all_eq_true.1 hcs.2

theorem all_isDigit_of_mapM {parts : List (List Char)} {ns : List Nat}
    (h : parts.mapM byte? = some ns) : ∀ part ∈ parts, ∀ c ∈ part, c.isDigit = true := by
  induction parts generalizing ns with
  | nil => simp
  | cons part parts ih =>
    simp only [List.mapM_cons, Option.bind_eq_bind, Option.bind_eq_some_iff] at h
    obtain ⟨n, hn, ns, hns, -⟩ := h
    exact List.forall_mem_cons.2 ⟨all_isDigit_of_byte? hn, ih hns⟩

/-- A text with a colon is not four bytes. -/
theorem bytes?_eq_none {cs : List Char} (h : ':' ∈ cs) : bytes? cs = none := by
  rw [bytes?]
  split
  · rename_i hparts
    rw [← join_split '.' cs] at h
    rcases mem_join h with h | ⟨part, hpart, hc⟩
    · contradiction
    · exact absurd (all_isDigit_of_mapM hparts part hpart ':' hc) (by decide)
  · rfl

/-! ### Groups -/

section Groups

variable {gs : List Nat}

theorem group?_digits {g : Nat} (h : g < 65536) : group? (Hexadecimal.digits g) = some g := by
  have hlength : (Hexadecimal.digits g).length ≤ 4 :=
    Hexadecimal.length_digits_le (by decide) (by omega)
  have hempty : (Hexadecimal.digits g).isEmpty = false := by simp [Hexadecimal.digits_ne_nil]
  rw [group?, if_neg (by simp [hempty]; omega), Hexadecimal.value?_digits]

theorem colon_not_mem_digits (g : Nat) : ':' ∉ Hexadecimal.digits g := fun h =>
  absurd (Hexadecimal.isSome_of_mem_digits h) (by decide)

theorem joined_eq_join (gs : List Nat) : joined gs = join ':' (gs.map Hexadecimal.digits) := by
  induction gs using joined.induct with
  | case1 => rfl
  | case2 g => rfl
  | case3 g h gs ih =>
    rw [joined, ih]
    rfl

theorem groups?_digits (h : ∀ g ∈ gs, g < 65536) (tail : Bool) :
    groups? tail (gs.map Hexadecimal.digits) = some gs := by
  induction gs using joined.induct with
  | case1 => rfl
  | case2 g => simp [groups?, group?_digits (h g List.mem_cons_self)]
  | case3 g g' gs ih =>
    rw [List.forall_mem_cons] at h
    have ih := ih h.2
    rw [List.map_cons] at ih ⊢
    simp [groups?, group?_digits h.1, ih]

theorem split_joined (hne : gs ≠ []) : split ':' (joined gs) = gs.map Hexadecimal.digits := by
  rw [joined_eq_join]
  refine split_join (by simpa using hne) fun part hpart => ?_
  obtain ⟨g, -, rfl⟩ := List.mem_map.1 hpart
  exact colon_not_mem_digits g

theorem joined_ne_nil (hne : gs ≠ []) : joined gs ≠ [] := by
  cases gs with
  | nil => contradiction
  | cons g gs => cases gs <;> simp [joined, Hexadecimal.digits_ne_nil]

theorem side?_joined (h : ∀ g ∈ gs, g < 65536) (tail : Bool) : side? tail (joined gs) = some gs := by
  by_cases hne : gs = []
  · rw [hne]
    rfl
  · rw [side?, if_neg (by simp [joined_ne_nil hne]), split_joined hne, groups?_digits h]

/-! ### The double colon -/

theorem cut?_append {part : List Char} (hc : ':' ∉ part) (rest : List Char) :
    cut? (part ++ rest) = (cut? rest).map fun (before, behind) => (part ++ before, behind) := by
  induction part with
  | nil => simp
  | cons c part ih =>
    rw [List.mem_cons, not_or] at hc
    rw [List.cons_append, cut?, ih hc.2]
    · simp [Function.comp_def]
    · rintro _ rfl
      exact absurd rfl hc.1

theorem cut?_colon {c : Char} (hc : c ≠ ':') (cs : List Char) :
    cut? (':' :: c :: cs) = (cut? (c :: cs)).map fun (before, behind) => (':' :: before, behind) := by
  rw [cut?]
  rintro _ - ⟨⟩
  exact hc rfl

/-- Groups have no double colon between them, nor does the last one make one with what follows. -/
theorem cut?_joined_append (gs : List Nat) (rest : List Char) :
    cut? (joined gs ++ rest) =
      (cut? rest).map fun (before, behind) => (joined gs ++ before, behind) := by
  induction gs using joined.induct with
  | case1 => simp [joined]
  | case2 g => exact cut?_append (colon_not_mem_digits g) rest
  | case3 g h gs ih =>
    -- the colon between two groups is followed by a digit
    obtain ⟨c, cs, hcs, hc⟩ : ∃ c cs, joined (h :: gs) = c :: cs ∧ c ≠ ':' := by
      obtain ⟨c, ds, hd⟩ := List.exists_cons_of_ne_nil (Hexadecimal.digits_ne_nil h)
      have hc : c ≠ ':' := by
        rintro rfl
        exact colon_not_mem_digits h (hd ▸ List.mem_cons_self)
      cases gs with
      | nil => exact ⟨c, ds, hd, hc⟩
      | cons g gs => exact ⟨c, ds ++ ':' :: joined (g :: gs), by rw [joined, hd]; rfl, hc⟩
    rw [joined, List.append_assoc, cut?_append (colon_not_mem_digits g), List.cons_append]
    rw [hcs] at ih ⊢
    rw [List.cons_append] at ih ⊢
    rw [cut?_colon hc, ih]
    simp [Function.comp_def]

/-- The longest run is one of zeros in the groups. -/
theorem longestRun_spec (gs : List Nat) (start : Nat) :
    ∃ front back, gs = front ++ (List.replicate (longestRun gs start).2 0 ++ back) ∧
      (longestRun gs start).1 = start + front.length := by
  induction gs generalizing start with
  | nil => exact ⟨[], [], rfl, rfl⟩
  | cons g gs ih =>
    simp only [longestRun]
    split
    · refine ⟨[], (g :: gs).dropWhile (· = 0), ?_, rfl⟩
      have hzeros : (g :: gs).takeWhile (· = 0) = List.replicate (zeros (g :: gs)) 0 :=
        List.eq_replicate_iff.2 ⟨rfl, fun n hn => by simpa using List.mem_takeWhile_imp hn⟩
      rw [List.nil_append, ← hzeros, List.takeWhile_append_dropWhile]
    · obtain ⟨front, back, hsplit, hstart⟩ := ih (start + 1)
      refine ⟨g :: front, back, ?_, ?_⟩
      · rw [List.cons_append, ← hsplit]
      · rw [hstart, List.length_cons]
        omega

end Groups

/-! ### Addresses -/

theorem readV6_cut {front back : List Nat} {cs : List Char} (hfront : ∀ g ∈ front, g < 65536)
    (hback : side? true cs = some back) (hlength : front.length + back.length < 8) :
    readV6 (joined front ++ ':' :: ':' :: cs) =
      ofGroups? (front ++ List.replicate (8 - front.length - back.length) 0 ++ back) := by
  have hcut : cut? (joined front ++ ':' :: ':' :: cs) = some (joined front, cs) := by
    rw [cut?_joined_append, cut?]
    simp
  simp [readV6, hcut, side?_joined hfront, hback, hlength]

theorem readV6_grouped {gs : List Nat} (h : ∀ g ∈ gs, g < 65536) (hlength : gs.length = 8) :
    readV6 (grouped gs) = ofGroups? gs := by
  obtain ⟨front, back, hsplit, hstart⟩ := longestRun_spec gs 0
  rw [Nat.zero_add] at hstart
  rw [grouped]
  dsimp only
  rw [hstart]
  split
  · rename_i hrun
    generalize (longestRun gs 0).2 = run at hsplit hrun ⊢
    subst hsplit
    simp only [List.length_append, List.length_replicate] at hlength
    have hfront : ∀ g ∈ front, g < 65536 := fun g hg => h g (by simp [hg])
    have hback : ∀ g ∈ back, g < 65536 := fun g hg => h g (by simp [hg])
    have hdrop : (front ++ (List.replicate run 0 ++ back)).drop (front.length + run) = back := by
      simp
    have hmiss : 8 - front.length - back.length = run := by omega
    rw [List.take_left, hdrop, readV6_cut hfront (side?_joined hback true) (by omega), hmiss,
      List.append_assoc]
  · have hcut : cut? (joined gs) = none := by
      have hcut := cut?_joined_append gs []
      rwa [List.append_nil] at hcut
    have hne : gs ≠ [] := by
      rintro rfl
      contradiction
    simp [readV6, hcut, split_joined hne, groups?_digits h]

/-- The text of eight groups has a colon. -/
theorem colon_mem_grouped {gs : List Nat} (hlength : gs.length = 8) : ':' ∈ grouped gs := by
  rw [grouped]
  dsimp only
  split
  · simp
  · match gs, hlength with
    | g :: h :: gs, _ => simp [joined]

theorem length_dotted (a b c d : Nat) : 7 ≤ (dotted a b c d).length := by
  have hdigits (n : Nat) : 1 ≤ (Decimal.digits n).length :=
    List.length_pos_iff.2 (Decimal.digits_ne_nil n)
  have ha := hdigits a
  have hb := hdigits b
  have hc := hdigits c
  have hd := hdigits d
  simp only [dotted, List.length_append, List.length_cons]
  omega

/-- The last two groups may stand as four bytes. -/
theorem side?_mapped {a b c d : Nat} (ha : a < 256) (hb : b < 256) (hc : c < 256) (hd : d < 256) :
    side? true ("ffff:".toList ++ dotted a b c d) =
      some [0xFFFF, 256 * a + b, 256 * c + d] := by
  have hsplit : split ':' ("ffff:".toList ++ dotted a b c d) = ["ffff".toList, dotted a b c d] := by
    have hcolon : ':' ∉ dotted a b c d := by
      intro h
      have hbytes := bytes?_eq_none h
      rw [bytes?_dotted ha hb hc hd] at hbytes
      contradiction
    have hsplit : split ':' ("ffff".toList ++ ':' :: dotted a b c d) = _ :=
      split_append (by decide) (dotted a b c d)
    rw [split_of_not_mem hcolon] at hsplit
    exact hsplit
  have hgroup : group? (dotted a b c d) = none := by
    have hlength := length_dotted a b c d
    rw [group?, if_pos]
    simp
    omega
  have hffff : group? "ffff".toList = some 0xFFFF := by decide
  rw [side?, if_neg (by simp), hsplit, groups?, hffff]
  · simp [groups?, hgroup, bytes?_dotted ha hb hc hd]
  · simp

theorem read_v6 (a b c d e f g h : UInt16) {cs : List Char} (hcolon : ':' ∈ cs)
    (hread : readV6 cs = ofGroups? (parts (.v6 a b c d e f g h))) :
    read cs = some (.v6 a b c d e f g h) := by
  rw [read, bytes?_eq_none hcolon]
  dsimp only
  rw [hread]
  simp [parts, ofGroups?]

theorem read_render (x : Address) : read x.render = some x := by
  cases x with
  | v4 a b c d =>
    have hbytes := bytes?_dotted a.toNat_lt b.toNat_lt c.toNat_lt d.toNat_lt
    simp [render, read, hbytes]
  | v6 a b c d e f g h =>
    rw [render]
    split
    · rename_i hmapped
      obtain ⟨rfl, rfl, rfl, rfl, rfl, rfl⟩ := hmapped
      have hhigh (n : UInt16) : n.toNat / 256 < 256 := Nat.div_lt_of_lt_mul (k := 256) n.toNat_lt
      have hlow (n : UInt16) : n.toNat % 256 < 256 := Nat.mod_lt n.toNat (by decide)
      have hback := side?_mapped (hhigh g) (hlow g) (hhigh h) (hlow h)
      rw [Nat.div_add_mod, Nat.div_add_mod] at hback
      refine read_v6 _ _ _ _ _ _ g h (by simp) ?_
      exact readV6_cut (fun _ hg => absurd hg List.not_mem_nil) hback (by simp)
    · refine read_v6 a b c d e f g h (colon_mem_grouped rfl) (readV6_grouped ?_ rfl)
      simp [parts, UInt16.toNat_lt_size]

theorem render_ne_nil (x : Address) : x.render ≠ [] := by
  intro h
  have hread := read_render x
  rw [h] at hread
  contradiction

/-! ### The characters of texts -/

section Characters

variable {c : Char}

theorem mem_dotted {a b c' d : Nat} (h : c ∈ dotted a b c' d) :
    c.isDigit = true ∨ c = '.' := by
  rw [dotted_eq_join] at h
  rcases mem_join h with h | ⟨part, hpart, hc⟩
  · exact .inr h
  · obtain ⟨n, -, rfl⟩ := List.mem_map.1 hpart
    exact .inl (Decimal.isDigit_of_mem_digits hc)

theorem mem_joined {gs : List Nat} (h : c ∈ joined gs) :
    (Hexadecimal.digitValue? c).isSome = true ∨ c = ':' := by
  rw [joined_eq_join] at h
  rcases mem_join h with h | ⟨part, hpart, hc⟩
  · exact .inr h
  · obtain ⟨n, -, rfl⟩ := List.mem_map.1 hpart
    exact .inl (Hexadecimal.isSome_of_mem_digits hc)

theorem mem_grouped {gs : List Nat} (h : c ∈ grouped gs) :
    (Hexadecimal.digitValue? c).isSome = true ∨ c = ':' := by
  unfold grouped at h
  dsimp only at h
  split at h
  · rw [List.mem_append, List.mem_cons, List.mem_cons] at h
    rcases h with h | h | h | h
    · exact mem_joined h
    · exact .inr h
    · exact .inr h
    · exact mem_joined h
  · exact mem_joined h

/-- The text of an address is made of digits, points and colons. -/
theorem mem_render {x : Address} (h : c ∈ x.render) :
    (Hexadecimal.digitValue? c).isSome = true ∨ c = '.' ∨ c = ':' := by
  have hdotted {a b c' d : Nat} (h : c ∈ dotted a b c' d) :
      (Hexadecimal.digitValue? c).isSome = true ∨ c = '.' ∨ c = ':' :=
    (mem_dotted h).imp Hexadecimal.isSome_of_isDigit .inl
  cases x with
  | v4 => exact hdotted h
  | v6 =>
    rw [render] at h
    split at h
    · rw [List.mem_append] at h
      have hmapped : ∀ c ∈ "::ffff:".toList,
          (Hexadecimal.digitValue? c).isSome = true ∨ c = '.' ∨ c = ':' := by
        rw [show "::ffff:".toList = [':', ':', 'f', 'f', 'f', 'f', ':'] from rfl]
        have hf : (Hexadecimal.digitValue? 'f').isSome = true := rfl
        simp [hf]
      exact h.elim (hmapped c) hdotted
    · exact (mem_grouped h).imp_right .inr

end Characters

end ServiceWatch.Address
