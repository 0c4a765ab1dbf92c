import ServiceWatch.Proofs.Json.Reading
import ServiceWatch.Proofs.Text.Digits

/-!
What a program writes on one line: compact text is decoded as the value that it was made of, and no
line ends within it.
-/
namespace ServiceWatch.Json

open ServiceWatch.Text

/-! ### Natural numbers -/

section Numbers

variable {n : Nat} {rest : List Char}

/-- What may stand behind a value does not go on with a number. -/
theorem Ends.head (h : Ends rest) :
    ∀ c ∈ rest.head?, c.isDigit = false ∧ c ≠ '.' ∧ c ≠ 'e' ∧ c ≠ 'E' := by
  intro c hc
  rcases h c hc with hblank | hmark
  · simp only [isBlank, Bool.or_eq_true, decide_eq_true_eq] at hblank
    rcases hblank with ((rfl | rfl) | rfl) | rfl <;> decide
  · simp only [List.mem_cons, List.not_mem_nil, or_false] at hmark
    rcases hmark with rfl | rfl | rfl | rfl <;> decide

namespace NumberText

theorem spanDigits_append {ds : List Char} (hds : ∀ c ∈ ds, c.isDigit = true) (hr : Ends rest) :
    spanDigits (ds ++ rest) = (ds, rest) :=
  Decimal.span_append hds fun c hc => (hr.head c hc).1

theorem readWhole_digits (hr : Ends rest) :
    readWhole (Decimal.digits n ++ rest) = some (Decimal.digits n, rest) := by
  rw [readWhole, spanDigits_append (fun c hc => Decimal.isDigit_of_mem_digits hc) hr]
  split
  · rename_i h
    exact absurd (congrArg Prod.fst h) (Decimal.digits_ne_nil n)
  · rename_i c cs _ h
    -- a number that starts with a zero is zero, and has no second digit
    have hds : Decimal.digits n = '0' :: c :: cs := congrArg Prod.fst h
    have hn : n = 0 := Decimal.eq_zero_of_head?_digits (by rw [hds]; rfl)
    rw [hn, Decimal.digits_of_lt (by decide)] at hds
    simp at hds
  · rename_i h
    rw [Prod.mk.injEq] at h
    rw [h.1, h.2]

theorem readFraction_ends (hr : Ends rest) : readFraction rest = some (none, rest) := by
  unfold readFraction
  split
  · exact absurd rfl (hr.head '.' rfl).2.1
  · rfl

theorem readExponent_ends (hr : Ends rest) : readExponent rest = some (none, rest) := by
  unfold readExponent
  split
  · exact absurd rfl (hr.head 'e' rfl).2.2.1
  · exact absurd rfl (hr.head 'E' rfl).2.2.2
  · rfl

theorem readUnsigned_digits (hr : Ends rest) : readUnsigned false (Decimal.digits n ++ rest) =
    some (⟨false, Decimal.digits n, none, none⟩, rest) := by
  simp [readUnsigned, readWhole_digits hr, readFraction_ends hr, readExponent_ends hr]

/-- Digits are taken up to the end, if the number they stand for has 64 bits. -/
theorem takeDigits_of_lt {start : Nat} {ds : List Char}
    (h : Decimal.valueFrom start ds < UInt64.size) :
    takeDigits start ds = (Decimal.valueFrom start ds, []) := by
  induction ds generalizing start with
  | nil => rfl
  | cons d ds ih =>
    have hnext : 10 * start + Decimal.digitValue d < UInt64.size :=
      Nat.lt_of_le_of_lt (Decimal.le_valueFrom _ ds) h
    rw [takeDigits, if_pos hnext, ih h]
    rfl

theorem value_digits (h : n < UInt64.size) :
    value ⟨false, Decimal.digits n, none, none⟩ = some (.natural n) := by
  have hn : Decimal.valueFrom 0 (Decimal.digits n) = n := Decimal.value_digits n
  have htake : takeDigits 0 (Decimal.digits n) = _ := takeDigits_of_lt (by rwa [hn])
  rw [hn] at htake
  simp [value, htake]

end NumberText

theorem readScalar_of_isDigit {c : Char} {cs : List Char} {literal : NumberText}
    (hc : c.isDigit = true) (h : NumberText.readUnsigned false (c :: cs) = some (literal, rest)) :
    readScalar (c :: cs) = (.number literal, rest) := by
  have hhead {d : Char} {ds : List Char} (he : c :: cs = d :: ds) : d.isDigit = true :=
    (List.cons.inj he).1 ▸ hc
  have hread : NumberText.read (c :: cs) = some (literal, rest) := by
    rw [NumberText.read, h]
    exact fun _ he => absurd (hhead he) (by decide)
  rw [readScalar]
  · simp only [hread]
  all_goals exact fun _ he => absurd (hhead he) (by decide)

theorem token_ofNat (n : Nat) : Token (ofNat n).render (ofNat n) := by
  obtain ⟨d, ds, hd⟩ := List.exists_cons_of_ne_nil (Decimal.digits_ne_nil n)
  have hdigit : d.isDigit = true := Decimal.isDigit_of_mem_digits (n := n) (hd ▸ List.mem_cons_self)
  have hrender : (ofNat n).render = Decimal.digits n := by simp [ofNat, render, NumberText.render]
  rw [hrender]
  refine ⟨fun rest => ⟨d, ds ++ rest, by rw [hd, List.cons_append], ?_, ?_⟩, fun rest hr => ?_⟩
  · by_contra hb
    simp only [isBlank, Bool.not_eq_false, Bool.or_eq_true, decide_eq_true_eq] at hb
    rcases hb with ((rfl | rfl) | rfl) | rfl <;> contradiction
  · simp only [List.mem_cons, List.not_mem_nil, or_false]
    rintro (rfl | rfl | rfl | rfl) <;> contradiction
  · have hread := NumberText.readUnsigned_digits (n := n) hr
    rw [hd, List.cons_append] at hread
    rw [hd, List.cons_append, readScalar_of_isDigit hdigit hread, ofNat, hd]

end Numbers

/-! ### Blank texts -/

theorem readScalar_of_isBlank {cs : List Char} (h : ∀ c ∈ cs.head?, Text.isBlank c = true) :
    readScalar cs = (.broken, []) := by
  cases cs with
  | nil => rfl
  | cons c cs =>
    have hhead {d : Char} {ds : List Char} (he : c :: cs = d :: ds) : Text.isBlank d = true :=
      (List.cons.inj he).1 ▸ h c rfl
    have hdigit : c.isDigit = false := by
      cases hc : c.isDigit with
      | false => rfl
      | true =>
        have hblank := isBlank_of_isDigit hc
        rw [h c rfl] at hblank
        contradiction
    have hunsigned : NumberText.readUnsigned false (c :: cs) = none := by
      have hspan : NumberText.spanDigits (c :: cs) = ([], c :: cs) := by
        rw [NumberText.spanDigits, List.span_eq_takeWhile_dropWhile]
        simp [hdigit]
      simp [NumberText.readUnsigned, NumberText.readWhole, hspan]
    have hread : NumberText.read (c :: cs) = none := by
      rw [NumberText.read, hunsigned]
      exact fun _ he => absurd (hhead he) (by decide)
    rw [readScalar]
    · simp only [hread]
    all_goals exact fun _ he => absurd (hhead he) (by decide)

/-- White space alone, of any kind, is not JSON. -/
theorem value_of_isAllBlank {cs : List Char} (h : Text.isAllBlank cs = true) :
    (Document.read cs).value = .broken := by
  have hhead : ∀ c ∈ (skipBlanks cs).head?, Text.isBlank c = true := by
    intro c hc
    have hmem : c ∈ skipBlanks cs := List.mem_of_mem_head? hc
    exact List.all_eq_true.1 h c ((List.dropWhile_sublist _).subset hmem)
  have hread : readValue (2 * cs.length + 2) cs = readScalar (skipBlanks cs) := by
    rw [readValue]
    split
    · rename_i hcs
      exact absurd (hhead '[' (by rw [hcs]; rfl)) (by decide)
    · rename_i hcs
      exact absurd (hhead '{' (by rw [hcs]; rfl)) (by decide)
    · rfl
  rw [Document.read, hread, readScalar_of_isBlank hhead]

/-! ### Values -/

/-- A value as the programs write it: made of texts and natural numbers. -/
inductive Written : Json → Prop where
  | null : Written .null
  | ofNat (n : Nat) : Written (.ofNat n)
  | ofString (s : String) : Written (.ofString s)
  | array {items : List Json} (h : ∀ v ∈ items, Written v) : Written (.array items)
  | record {fields : List (String × Json)} (h : ∀ f ∈ fields, Written f.2) : Written (.record fields)

theorem legibleItems_iff {vs : List Json} : LegibleItems vs ↔ ∀ v ∈ vs, v.Legible := by
  induction vs with
  | nil => simp [LegibleItems]
  | cons v vs ih => simp [LegibleItems, ih]

theorem legibleMembers_record {fields : List (String × Json)} (h : ∀ f ∈ fields, f.2.Legible) :
    LegibleMembers (fields.map fun (name, value) => (ofString name, value)) := by
  induction fields with
  | nil => trivial
  | cons f fields ih =>
    rw [List.forall_mem_cons] at h
    exact ⟨token_ofString f.1, h.1, ih h.2⟩

theorem Written.legible {v : Json} (h : Written v) : v.Legible := by
  induction h with
  | null => trivial
  | ofNat n => exact token_ofNat n
  | ofString s => exact token_ofString s
  | array _ ih => exact legibleItems_iff.2 ih
  | record _ ih => exact legibleMembers_record ih

mutual

theorem core_render : ∀ v : Json, v.Legible → Core v.render v
  | .null, _ => .token token_null
  | .bool b, _ => .token (token_bool b)
  | .number _, h => .token h
  | .string _, h => .token h
  | .array [], _ => @Core.emptyArray [] allBlank_nil
  | .array (v :: vs), h => .array (spells_renderItems (v :: vs) (by simp) h)
  | .object [], _ => @Core.emptyObject [] allBlank_nil
  | .object (m :: ms), h => .object (spells_renderMembers (m :: ms) (by simp) h)

theorem spells_renderItems : ∀ vs : List Json, vs ≠ [] → LegibleItems vs →
    SpellsItems (renderItems vs) vs
  | [v], _, h => .last (core_render v h.1).spells
  | v :: w :: vs, _, h =>
    .more (core_render v h.1).spells (spells_renderItems (w :: vs) (by simp) h.2)

theorem spells_renderMembers : ∀ ms : List (Json × Json), ms ≠ [] → LegibleMembers ms →
    SpellsMembers (renderMembers ms) ms
  | [(_, v)], _, h => .last (Core.token h.1).spells (core_render v h.2.1).spells
  | (_, v) :: m :: ms, _, h =>
    .more (Core.token h.1).spells (core_render v h.2.1).spells
      (spells_renderMembers (m :: ms) (by simp) h.2.2)

end

/-- Compact text is decoded as the value it was made of. -/
theorem decodeText_compact {α : Type} {v : Json} (h : v.Legible) (decode : Decoder α) :
    decodeText decode v.compact.toList = decode v := by
  rw [compact, String.toList_ofList]
  exact (core_render v h).spells.decodeText decode

/-! ### Lines -/

theorem Escape.newline_not_mem_encode (cs : List Char) : '\n' ∉ encode cs := by
  intro h
  obtain ⟨c, -, hc⟩ := List.mem_flatMap.1 h
  have hform := form_encodeChar c
  revert hc
  generalize encodeChar c = written at hform
  cases hform with
  | @letter e hu he =>
    have hne : e ≠ '\n' := by
      rintro rfl
      simp [short?] at he
    simp [hne.symm]
  | control hc =>
    have hdigit {d : Nat} (hd : d < 16) : Hexadecimal.digitChar d ≠ '\n' := by
      intro hn
      have hvalue := Hexadecimal.digitValue?_digitChar d hd
      rw [hn] at hvalue
      contradiction
    have h1 := hdigit (show c.toNat / 16 < 16 by omega)
    have h2 := hdigit (show c.toNat % 16 < 16 by omega)
    simp [h1.symm, h2.symm]
  | plain hquote hslash hc =>
    rw [List.mem_singleton]
    rintro rfl
    exact hc (by decide)

theorem mem_renderItems {c : Char} : ∀ {vs : List Json}, c ∈ renderItems vs →
    c = ',' ∨ ∃ v ∈ vs, c ∈ v.render
  | [], h => by simp [renderItems] at h
  | [v], h => .inr ⟨v, List.mem_cons_self, h⟩
  | v :: w :: vs, h => by
    rw [renderItems, List.mem_append, List.mem_cons] at h
    rcases h with h | h | h
    · exact .inr ⟨v, List.mem_cons_self, h⟩
    · exact .inl h
    · rcases mem_renderItems h with h | ⟨u, hu, h⟩
      · exact .inl h
      · exact .inr ⟨u, List.mem_cons_of_mem v hu, h⟩

theorem mem_renderMembers {c : Char} : ∀ {ms : List (Json × Json)}, c ∈ renderMembers ms →
    c = ',' ∨ c = ':' ∨ ∃ m ∈ ms, c ∈ m.1.render ∨ c ∈ m.2.render
  | [], h => by simp [renderMembers] at h
  | [m], h => by
    rw [renderMembers, List.mem_append, List.mem_cons] at h
    rcases h with h | h | h
    · exact .inr (.inr ⟨m, List.mem_cons_self, .inl h⟩)
    · exact .inr (.inl h)
    · exact .inr (.inr ⟨m, List.mem_cons_self, .inr h⟩)
  | m :: m' :: ms, h => by
    rw [renderMembers, List.mem_append, List.mem_cons, List.mem_append, List.mem_cons] at h
    rcases h with h | h | h | h | h
    · exact .inr (.inr ⟨m, List.mem_cons_self, .inl h⟩)
    · exact .inr (.inl h)
    · exact .inr (.inr ⟨m, List.mem_cons_self, .inr h⟩)
    · exact .inl h
    · rcases mem_renderMembers h with h | h | ⟨n, hn, h⟩
      · exact .inl h
      · exact .inr (.inl h)
      · exact .inr (.inr ⟨n, List.mem_cons_of_mem m hn, h⟩)

theorem Written.newline_not_mem {v : Json} (h : Written v) : '\n' ∉ v.render := by
  have hstring (s : String) : '\n' ∉ (Json.ofString s).render := by
    simp [Json.ofString, render, Escape.newline_not_mem_encode]
  induction h with
  | null => simp [render]
  | ofNat n =>
    have hrender : (Json.ofNat n).render = Decimal.digits n := by
      simp [Json.ofNat, render, NumberText.render]
    rw [hrender]
    intro h
    exact absurd (Decimal.isDigit_of_mem_digits h) (by decide)
  | ofString s => exact hstring s
  | array _ ih =>
    intro h
    simp only [render, List.mem_cons, List.mem_append, List.not_mem_nil, or_false] at h
    rcases h with h | h | h
    · contradiction
    · rcases mem_renderItems h with h | ⟨v, hv, h⟩
      · contradiction
      · exact ih v hv h
    · contradiction
  | record _ ih =>
    intro h
    simp only [Json.record, render, List.mem_cons, List.mem_append, List.not_mem_nil, or_false] at h
    rcases h with h | h | h
    · contradiction
    · rcases mem_renderMembers h with h | h | ⟨m, hm, h⟩
      · contradiction
      · contradiction
      · obtain ⟨f, hf, rfl⟩ := List.mem_map.1 hm
        rcases h with h | h
        · exact hstring f.1 h
        · exact ih f hf h
    · contradiction

end ServiceWatch.Json
