/-! The lines in bytes: each ends with a line feed, perhaps with a carriage return before it. -/
namespace ServiceWatch.Text

/-- Lines with one more byte at the start of the first of them. -/
def extend (b : UInt8) : List (List UInt8) → List (List UInt8)
  | line :: rest => (b :: line) :: rest
  | [] => [[b]]

/-- The lines in bytes, with their ends; the last one may lack its end. -/
def lines : List UInt8 → List (List UInt8)
  | [] => []
  | b :: bs => if b = 10 then [10] :: lines bs else extend b (lines bs)

/-- The text of a line without its end. -/
def withoutEnd (line : List Char) : List Char :=
  match line.reverse with
  | '\n' :: '\r' :: rest | '\n' :: rest => rest.reverse
  | _ => line

/-- Bytes up to the end of the last whole line, and those behind it. -/
def cutBehindLines (bs : List UInt8) : List UInt8 × List UInt8 :=
  ((bs.reverse.dropWhile (· ≠ 10)).reverse, (bs.reverse.takeWhile (· ≠ 10)).reverse)

theorem cutBehindLines_append (bs : List UInt8) :
    (cutBehindLines bs).1 ++ (cutBehindLines bs).2 = bs := by
  simp only [cutBehindLines, ← List.reverse_append, List.takeWhile_append_dropWhile,
    List.reverse_reverse]

theorem cutBehindLines_concat (bs : List UInt8) : cutBehindLines (bs ++ [10]) = (bs ++ [10], []) := by
  simp [cutBehindLines]

theorem withoutEnd_concat {cs : List Char} (h : cs.getLast? ≠ some '\r') :
    withoutEnd (cs ++ ['\n']) = cs := by
  rw [List.getLast?_eq_head?_reverse] at h
  rw [withoutEnd, List.reverse_concat, ← List.reverse_reverse cs]
  generalize cs.reverse = rev at h ⊢
  split <;> simp_all

theorem lines_cons (b : UInt8) (bs : List UInt8) :
    lines (b :: bs) = if b = 10 then [10] :: lines bs else extend b (lines bs) := rfl

theorem extend_append (b : UInt8) {ls : List (List UInt8)} (h : ls ≠ []) (rest : List (List UInt8)) :
    extend b (ls ++ rest) = extend b ls ++ rest := by
  cases ls with
  | nil => exact absurd rfl h
  | cons l ls => rfl

theorem lines_ne_nil {bs : List UInt8} (h : bs ≠ []) : lines bs ≠ [] := by
  cases bs with
  | nil => contradiction
  | cons b bs =>
    rw [lines_cons, extend.eq_def]
    split
    · exact List.cons_ne_nil _ _
    · split <;> exact List.cons_ne_nil _ _

/-- The first line ends at the first line feed. -/
theorem lines_append {line : List UInt8} (h : 10 ∉ line) (rest : List UInt8) :
    lines (line ++ 10 :: rest) = (line ++ [10]) :: lines rest := by
  induction line with
  | nil => rfl
  | cons b bs ih =>
    obtain ⟨hb, hbs⟩ := List.ne_and_not_mem_of_not_mem_cons h
    rw [List.cons_append, lines_cons, if_neg hb.symm, ih hbs]
    rfl

/-- The lines of bytes behind the end of a line are those before it and those behind it. -/
theorem lines_append_of_getLast {whole : List UInt8} (h : whole.getLast? = some 10)
    (rest : List UInt8) : lines (whole ++ rest) = lines whole ++ lines rest := by
  induction whole with
  | nil => contradiction
  | cons b bs ih =>
    rw [List.cons_append, lines_cons, lines_cons]
    cases bs with
    | nil =>
      obtain rfl : b = 10 := by simpa using h
      rfl
    | cons c cs =>
      rw [ih (by simpa using h), extend_append b (lines_ne_nil (List.cons_ne_nil c cs))]
      split <;> rfl

theorem getLast?_cutBehindLines (bs : List UInt8) :
    (cutBehindLines bs).1 = [] ∨ (cutBehindLines bs).1.getLast? = some 10 := by
  have hhead := List.head?_dropWhile_not (fun b : UInt8 => decide (b ≠ 10)) bs.reverse
  rw [cutBehindLines, List.getLast?_reverse, List.reverse_eq_nil_iff]
  cases hd : bs.reverse.dropWhile (fun b : UInt8 => decide (b ≠ 10)) with
  | nil => exact .inl rfl
  | cons b rest =>
    rw [hd] at hhead
    exact .inr (by simpa using hhead)

/-- Looking at whole lines alone loses nothing, whatever comes behind the rest. -/
theorem lines_cut (bs rest : List UInt8) : lines (bs ++ rest) =
    lines (cutBehindLines bs).1 ++ lines ((cutBehindLines bs).2 ++ rest) := by
  have hwhole : bs ++ rest = (cutBehindLines bs).1 ++ ((cutBehindLines bs).2 ++ rest) := by
    rw [← List.append_assoc, cutBehindLines_append]
  rw [hwhole]
  rcases getLast?_cutBehindLines bs with h | h
  · rw [h]
    rfl
  · exact lines_append_of_getLast h _

end ServiceWatch.Text
