/-! The parts of a text between separators. -/
namespace ServiceWatch.Text

/-- The parts of a text between the separators in it; there is one part more than separators. -/
def split (separator : Char) : List Char → List (List Char)
  | [] => [[]]
  | c :: cs =>
    if c = separator then [] :: split separator cs
    else
      match split separator cs with
      | part :: parts => (c :: part) :: parts
      | [] => [[c]]

def join (separator : Char) : List (List Char) → List Char
  | [] => []
  | [part] => part
  | part :: parts => part ++ separator :: join separator parts

theorem split_ne_nil (separator : Char) (cs : List Char) : split separator cs ≠ [] := by
  cases cs with
  | nil => simp [split]
  | cons c cs =>
    rw [split]
    split
    · simp
    · split <;> simp

theorem join_cons_cons (separator c : Char) (part : List Char) (parts : List (List Char)) :
    join separator ((c :: part) :: parts) = c :: join separator (part :: parts) := by
  cases parts <;> simp [join]

/-- Nothing is lost between the parts but the separators. -/
theorem join_split (separator : Char) (cs : List Char) : join separator (split separator cs) = cs := by
  induction cs with
  | nil => rfl
  | cons c cs ih =>
    rw [split]
    cases h : split separator cs with
    | nil => exact absurd h (split_ne_nil separator cs)
    | cons part parts =>
      rw [h] at ih
      by_cases hc : c = separator
      · simp [hc, join, ih]
      · simp [hc, join_cons_cons, ih]

section

variable {separator : Char} {part : List Char} {parts : List (List Char)}

theorem split_of_not_mem (h : separator ∉ part) : split separator part = [part] := by
  induction part with
  | nil => rfl
  | cons c cs ih =>
    rw [List.mem_cons, not_or] at h
    rw [split, if_neg (Ne.symm h.1), ih h.2]

theorem split_append (h : separator ∉ part) (rest : List Char) :
    split separator (part ++ separator :: rest) = part :: split separator rest := by
  induction part with
  | nil => rw [List.nil_append, split, if_pos rfl]
  | cons c cs ih =>
    rw [List.mem_cons, not_or] at h
    rw [List.cons_append, split, if_neg (Ne.symm h.1), ih h.2]

/-- Parts without a separator are found again. -/
theorem split_join (hne : parts ≠ []) (h : ∀ part ∈ parts, separator ∉ part) :
    split separator (join separator parts) = parts := by
  induction parts using join.induct with
  | case1 => contradiction
  | case2 part => exact split_of_not_mem (h part List.mem_cons_self)
  | case3 part parts hparts ih =>
    have hrest : parts ≠ [] := fun hnil => hparts hnil
    rw [join, split_append (h part List.mem_cons_self),
      ih hrest fun p hp => h p (List.mem_cons_of_mem part hp)]
    exact hparts

theorem mem_join {c : Char} (h : c ∈ join separator parts) :
    c = separator ∨ ∃ part ∈ parts, c ∈ part := by
  induction parts using join.induct with
  | case1 => simp [join] at h
  | case2 part => exact .inr ⟨part, List.mem_cons_self, h⟩
  | case3 part parts hparts ih =>
    rw [join, List.mem_append, List.mem_cons] at h
    · rcases h with h | h | h
      · exact .inr ⟨part, List.mem_cons_self, h⟩
      · exact .inl h
      · rcases ih h with h | ⟨p, hp, h⟩
        · exact .inl h
        · exact .inr ⟨p, List.mem_cons_of_mem part hp, h⟩
    · exact hparts

end

end ServiceWatch.Text
