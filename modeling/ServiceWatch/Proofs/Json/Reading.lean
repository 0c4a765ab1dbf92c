import Mathlib.Data.List.DropRight
import ServiceWatch.Proofs.Json.Strings

/-!
The texts that spell a value, blanks between tokens included, and that reading any of them gives the
value. What the writer makes of a value spells it.
-/
namespace ServiceWatch.Json

/-! ### Blanks and ends -/

def AllBlank (cs : List Char) : Prop := ∀ c ∈ cs, isBlank c = true

theorem allBlank_nil : AllBlank [] := by simp [AllBlank]

theorem allBlank_space : AllBlank [' '] := by simp [AllBlank, isBlank]

/-- What may stand behind a value: nothing, a blank, or a mark of an array or object. -/
def Ends (rest : List Char) : Prop :=
  ∀ c ∈ rest.head?, isBlank c = true ∨ c ∈ [',', ':', ']', '}']

theorem Ends.nil : Ends [] := by simp [Ends]

theorem Ends.mark {c : Char} (hc : c ∈ [',', ':', ']', '}']) (rest : List Char) : Ends (c :: rest) := by
  rintro _ ⟨⟩
  exact .inr hc

theorem Ends.behind {behind rest : List Char} (hb : AllBlank behind) (hr : Ends rest) :
    Ends (behind ++ rest) := by
  cases behind with
  | nil => exact hr
  | cons b behind =>
    rintro _ ⟨⟩
    exact .inl (hb b List.mem_cons_self)

theorem skipBlanks_append {front : List Char} (h : AllBlank front) (cs : List Char) :
    skipBlanks (front ++ cs) = skipBlanks cs := List.dropWhile_append_of_pos h

theorem skipBlanks_cons {c : Char} (h : isBlank c = false) (cs : List Char) :
    skipBlanks (c :: cs) = c :: cs := List.dropWhile_cons_of_neg (by simp [h])

theorem skipBlanks_skipBlanks (cs : List Char) : skipBlanks (skipBlanks cs) = skipBlanks cs :=
  List.dropWhile_idempotent _ _

theorem readValue_skipBlanks (fuel : Nat) (cs : List Char) :
    readValue fuel (skipBlanks cs) = readValue fuel cs := by
  cases fuel with
  | zero => simp only [readValue]
  | succ fuel => simp only [readValue, skipBlanks_skipBlanks]

theorem readItems_skipBlanks (fuel : Nat) (cs : List Char) :
    readItems fuel (skipBlanks cs) = readItems fuel cs := by
  cases fuel with
  | zero => simp only [readItems]
  | succ fuel => simp only [readItems, readValue_skipBlanks]

theorem readMembers_skipBlanks (fuel : Nat) (cs : List Char) :
    readMembers fuel (skipBlanks cs) = readMembers fuel cs := by
  cases fuel with
  | zero => simp only [readMembers]
  | succ fuel => simp only [readMembers, readValue_skipBlanks]

/-! ### Spellings -/

/-- The text of a value of one token, which is read up to its end. -/
structure Token (cs : List Char) (v : Json) : Prop where
  start : ∀ rest, ∃ c tail, cs ++ rest = c :: tail ∧ isBlank c = false ∧ c ∉ ['[', ']', '{', '}']
  read : ∀ rest, Ends rest → readScalar (cs ++ rest) = (v, rest)

mutual

/-- A text, with no blanks at its ends, that stands for a value. -/
inductive Core : List Char → Json → Prop where
  | token {cs v} (h : Token cs v) : Core cs v
  | emptyArray {blanks} (hb : AllBlank blanks) : Core ('[' :: (blanks ++ [']'])) (.array [])
  | array {cs vs} (h : SpellsItems cs vs) : Core ('[' :: (cs ++ [']'])) (.array vs)
  | emptyObject {blanks} (hb : AllBlank blanks) : Core ('{' :: (blanks ++ ['}'])) (.object [])
  | object {cs ms} (h : SpellsMembers cs ms) : Core ('{' :: (cs ++ ['}'])) (.object ms)

/-- A text that stands for a value. -/
inductive Spells : List Char → Json → Prop where
  | padded {front cs behind v} (hf : AllBlank front) (h : Core cs v) (hb : AllBlank behind) :
    Spells (front ++ (cs ++ behind)) v

inductive SpellsItems : List Char → List Json → Prop where
  | last {cs v} (h : Spells cs v) : SpellsItems cs [v]
  | more {cs ds v vs} (h : Spells cs v) (hs : SpellsItems ds vs) :
    SpellsItems (cs ++ ',' :: ds) (v :: vs)

inductive SpellsMembers : List Char → List (Json × Json) → Prop where
  | last {ks cs k v} (hk : Spells ks k) (h : Spells cs v) : SpellsMembers (ks ++ ':' :: cs) [(k, v)]
  | more {ks cs ds k v ms} (hk : Spells ks k) (h : Spells cs v) (hs : SpellsMembers ds ms) :
    SpellsMembers (ks ++ ':' :: (cs ++ ',' :: ds)) ((k, v) :: ms)

end

/-- A value does not start with a closing mark. -/
theorem Spells.start {cs : List Char} {v : Json} (h : Spells cs v) (rest : List Char) :
    ∃ c tail, skipBlanks (cs ++ rest) = c :: tail ∧ c ≠ ']' ∧ c ≠ '}' := by
  obtain @⟨front, core, behind, v, hf, h, hb⟩ := h
  rw [List.append_assoc, List.append_assoc, skipBlanks_append hf]
  cases h with
  | token h =>
    obtain ⟨c, tail, hc, hblank, hmark⟩ := h.start (behind ++ rest)
    rw [hc, skipBlanks_cons hblank]
    refine ⟨c, tail, rfl, ?_, ?_⟩ <;> rintro rfl <;> exact hmark (by decide)
  | emptyArray _ | array _ =>
    exact ⟨'[', _, skipBlanks_cons rfl _, by decide, by decide⟩
  | emptyObject _ | object _ =>
    exact ⟨'{', _, skipBlanks_cons rfl _, by decide, by decide⟩

theorem SpellsItems.start {cs : List Char} {vs : List Json} (h : SpellsItems cs vs)
    (rest : List Char) : ∃ c tail, skipBlanks (cs ++ rest) = c :: tail ∧ c ≠ ']' ∧ c ≠ '}' := by
  cases h with
  | last h => exact h.start rest
  | more h hs =>
    rw [List.append_assoc]
    exact h.start _

theorem SpellsMembers.start {cs : List Char} {ms : List (Json × Json)} (h : SpellsMembers cs ms)
    (rest : List Char) : ∃ c tail, skipBlanks (cs ++ rest) = c :: tail ∧ c ≠ ']' ∧ c ≠ '}' := by
  cases h with
  | last hk h | more hk h hs =>
    rw [List.append_assoc]
    exact hk.start _

/-! ### Reading -/

section Steps

variable {fuel : Nat} {cs ds behind rest : List Char} {v k : Json}

theorem readValue_blanks {front : List Char} (hf : AllBlank front) :
    readValue fuel (front ++ cs) = readValue fuel cs := by
  rw [← readValue_skipBlanks, skipBlanks_append hf, readValue_skipBlanks]

theorem readValue_token (h : Token cs v) (hr : Ends rest) :
    readValue (fuel + 1) (cs ++ rest) = (v, rest) := by
  obtain ⟨c, tail, hc, hblank, hmark⟩ := h.start rest
  rw [← h.read rest hr, readValue, hc, skipBlanks_cons hblank]
  split
  · simp_all
  · simp_all
  · rfl

theorem readValue_emptyArray (hs : skipBlanks cs = ']' :: rest) :
    readValue (fuel + 1) ('[' :: cs) = (.array [], rest) := by
  simp only [readValue, skipBlanks_cons (show isBlank '[' = false from rfl), hs]

theorem readValue_emptyObject (hs : skipBlanks cs = '}' :: rest) :
    readValue (fuel + 1) ('{' :: cs) = (.object [], rest) := by
  simp only [readValue, skipBlanks_cons (show isBlank '{' = false from rfl), hs]

theorem readValue_array (hs : ∃ c tail, skipBlanks cs = c :: tail ∧ c ≠ ']' ∧ c ≠ '}') :
    readValue (fuel + 1) ('[' :: cs) = (.array (readItems fuel cs).1, (readItems fuel cs).2) := by
  obtain ⟨c, tail, hc, hclose, -⟩ := hs
  simp only [readValue, skipBlanks_cons (show isBlank '[' = false from rfl)]
  rw [← readItems_skipBlanks fuel cs, hc]
  split
  · simp_all
  · rfl

theorem readValue_object (hs : ∃ c tail, skipBlanks cs = c :: tail ∧ c ≠ ']' ∧ c ≠ '}') :
    readValue (fuel + 1) ('{' :: cs) =
      (.object (readMembers fuel cs).1, (readMembers fuel cs).2) := by
  obtain ⟨c, tail, hc, -, hclose⟩ := hs
  simp only [readValue, skipBlanks_cons (show isBlank '{' = false from rfl)]
  rw [← readMembers_skipBlanks fuel cs, hc]
  split
  · simp_all
  · rfl

theorem readItems_last (hv : readValue fuel cs = (v, behind)) (hb : skipBlanks behind = ']' :: rest) :
    readItems (fuel + 1) cs = ([v], rest) := by
  simp only [readItems, hv, hb]

theorem readItems_more (hv : readValue fuel cs = (v, behind)) (hb : skipBlanks behind = ',' :: ds) :
    readItems (fuel + 1) cs = (v :: (readItems fuel ds).1, (readItems fuel ds).2) := by
  simp only [readItems, hv, hb]

variable {bs afterKey : List Char}

theorem readMembers_last (hk : readValue fuel bs = (k, afterKey))
    (hcolon : skipBlanks afterKey = ':' :: cs) (hv : readValue fuel cs = (v, behind))
    (hb : skipBlanks behind = '}' :: rest) : readMembers (fuel + 1) bs = ([(k, v)], rest) := by
  simp only [readMembers, hk, hcolon, hv, hb]

theorem readMembers_more (hk : readValue fuel bs = (k, afterKey))
    (hcolon : skipBlanks afterKey = ':' :: cs) (hv : readValue fuel cs = (v, behind))
    (hb : skipBlanks behind = ',' :: ds) :
    readMembers (fuel + 1) bs = ((k, v) :: (readMembers fuel ds).1, (readMembers fuel ds).2) := by
  simp only [readMembers, hk, hcolon, hv, hb]

end Steps

theorem skipBlanks_mark {behind rest : List Char} {c : Char} (hc : isBlank c = false)
    (hb : skipBlanks behind = skipBlanks (c :: rest)) : skipBlanks behind = c :: rest :=
  hb.trans (skipBlanks_cons hc rest)

mutual

theorem Core.read : ∀ {cs v}, Core cs v → ∀ (fuel : Nat) (rest : List Char),
    2 * cs.length ≤ fuel → Ends rest → readValue fuel (cs ++ rest) = (v, rest)
  | cs, v, .token h, fuel, rest, hf, hr => by
    obtain ⟨c, tail, hc, -, -⟩ := h.start []
    have hpos : 0 < cs.length := by
      rw [← List.append_nil cs, hc]
      exact Nat.succ_pos _
    obtain ⟨fuel, rfl⟩ : ∃ n, fuel = n + 1 := ⟨fuel - 1, by omega⟩
    exact readValue_token h hr
  | _, _, .emptyArray hb, fuel + 2, rest, hf, hr => by
    rw [List.cons_append, List.append_assoc]
    exact readValue_emptyArray ((skipBlanks_append hb _).trans (skipBlanks_cons rfl rest))
  | _, _, .array h, fuel + 2, rest, hf, hr => by
    have hread := SpellsItems.read h (fuel + 1) rest (by grind)
    rw [List.cons_append, List.append_assoc, readValue_array (h.start _)]
    simp only [List.cons_append, List.nil_append, hread]
  | _, _, .emptyObject hb, fuel + 2, rest, hf, hr => by
    rw [List.cons_append, List.append_assoc]
    exact readValue_emptyObject ((skipBlanks_append hb _).trans (skipBlanks_cons rfl rest))
  | _, _, .object h, fuel + 2, rest, hf, hr => by
    have hread := SpellsMembers.read h (fuel + 1) rest (by grind)
    rw [List.cons_append, List.append_assoc, readValue_object (h.start _)]
    simp only [List.cons_append, List.nil_append, hread]

theorem Spells.read : ∀ {cs v}, Spells cs v → ∀ (fuel : Nat) (rest : List Char),
    2 * cs.length ≤ fuel → Ends rest →
      ∃ behind, readValue fuel (cs ++ rest) = (v, behind) ∧ skipBlanks behind = skipBlanks rest
  | _, _, @Spells.padded _ _ behind _ hfront h hb, fuel, rest, hf, hr => by
    have hread := Core.read h fuel (behind ++ rest) (by grind) (.behind hb hr)
    refine ⟨behind ++ rest, ?_, skipBlanks_append hb rest⟩
    rw [List.append_assoc, List.append_assoc, readValue_blanks hfront, hread]

theorem SpellsItems.read : ∀ {cs vs}, SpellsItems cs vs → ∀ (fuel : Nat) (rest : List Char),
    2 * cs.length + 1 ≤ fuel → readItems fuel (cs ++ ']' :: rest) = (vs, rest)
  | _, _, .last h, fuel + 1, rest, hf => by
    obtain ⟨behind, hv, hb⟩ := Spells.read h fuel (']' :: rest) (by omega)
      (.mark (by decide) rest)
    exact readItems_last hv (skipBlanks_mark rfl hb)
  | _, _, @SpellsItems.more _ ds _ _ h hs, fuel + 1, rest, hf => by
    obtain ⟨behind, hv, hb⟩ := Spells.read h fuel (',' :: (ds ++ ']' :: rest))
      (by grind) (.mark (by decide) _)
    have hrest := SpellsItems.read hs fuel rest (by grind)
    rw [List.append_assoc, List.cons_append, readItems_more hv (skipBlanks_mark rfl hb), hrest]

theorem SpellsMembers.read : ∀ {cs ms}, SpellsMembers cs ms → ∀ (fuel : Nat) (rest : List Char),
    2 * cs.length + 1 ≤ fuel → readMembers fuel (cs ++ '}' :: rest) = (ms, rest)
  | _, _, @SpellsMembers.last _ cs _ _ hk h, fuel + 1, rest, hf => by
    obtain ⟨afterKey, hkey, hcolon⟩ := Spells.read hk fuel (':' :: (cs ++ '}' :: rest))
      (by grind) (.mark (by decide) _)
    obtain ⟨behind, hv, hb⟩ := Spells.read h fuel ('}' :: rest) (by grind)
      (.mark (by decide) rest)
    rw [List.append_assoc, List.cons_append]
    exact readMembers_last hkey (skipBlanks_mark rfl hcolon) hv (skipBlanks_mark rfl hb)
  | _, _, @SpellsMembers.more _ cs ds _ _ _ hk h hs, fuel + 1, rest, hf => by
    obtain ⟨afterKey, hkey, hcolon⟩ := Spells.read hk fuel
      (':' :: (cs ++ ',' :: (ds ++ '}' :: rest))) (by grind) (.mark (by decide) _)
    obtain ⟨behind, hv, hb⟩ := Spells.read h fuel (',' :: (ds ++ '}' :: rest))
      (by grind) (.mark (by decide) _)
    have hrest := SpellsMembers.read hs fuel rest (by grind)
    rw [List.append_assoc, List.cons_append, List.append_assoc, List.cons_append,
      readMembers_more hkey (skipBlanks_mark rfl hcolon) hv (skipBlanks_mark rfl hb), hrest]

end

variable {cs : List Char} {v : Json}

theorem Spells.document (h : Spells cs v) : Document.read cs = ⟨v, true⟩ := by
  obtain ⟨behind, hread, hb⟩ := h.read _ [] (Nat.le_add_right (2 * cs.length) 2) .nil
  rw [List.append_nil] at hread
  unfold Document.read
  rw [hread]
  dsimp only
  rw [hb]
  rfl

/-- A text is decoded as the value that it spells. -/
theorem Spells.decodeText {α : Type} (h : Spells cs v) (decode : Decoder α) :
    decodeText decode cs = decode v := by
  simp only [Json.decodeText, h.document, if_true]
  exact bind_pure (decode v)

/-! ### Writing -/

theorem readScalar_quoted {cs raw rest : List Char} (h : Escape.scan cs = some (raw, rest)) :
    readScalar ('"' :: cs) = (.string raw, rest) := by
  rw [readScalar, h]

theorem token_ofString (s : String) : Token (ofString s).render (ofString s) where
  start rest := ⟨'"', _, rfl, by decide, by decide⟩
  read rest _ := by
    have hwritten : (ofString s).render ++ rest = '"' :: (Escape.encode s.toList ++ '"' :: rest) := by
      change '"' :: (Escape.encode s.toList ++ ['"']) ++ rest = _
      simp only [List.cons_append, List.append_assoc, List.nil_append]
    rw [hwritten]
    exact readScalar_quoted (Escape.scan_encode s.toList rest)

theorem token_null : Token (render .null) .null where
  start rest := ⟨'n', _, rfl, by decide, by decide⟩
  read rest _ := rfl

theorem token_bool (b : Bool) : Token (render (.bool b)) (.bool b) := by
  cases b
  · exact ⟨fun rest => ⟨'f', _, rfl, by decide, by decide⟩, fun rest _ => rfl⟩
  · exact ⟨fun rest => ⟨'t', _, rfl, by decide, by decide⟩, fun rest _ => rfl⟩

mutual

/-- The literals of a value and the keys of its members are tokens. -/
def Legible : Json → Prop
  | .null | .bool _ => True
  | .number n => Token n.render (.number n)
  | .string raw => Token (render (.string raw)) (.string raw)
  | .array items => LegibleItems items
  | .object members => LegibleMembers members
  | .broken => False

def LegibleItems : List Json → Prop
  | [] => True
  | v :: vs => v.Legible ∧ LegibleItems vs

def LegibleMembers : List (Json × Json) → Prop
  | [] => True
  | (k, v) :: ms => Token k.render k ∧ v.Legible ∧ LegibleMembers ms

end

theorem allBlank_lineBreak (depth : Nat) : AllBlank (lineBreak depth) := by
  intro c hc
  rcases List.mem_cons.1 hc with rfl | hc
  · rfl
  · rw [List.eq_of_mem_replicate hc]
    rfl

theorem Core.spells (h : Core cs v) : Spells cs v := by
  have hs := Spells.padded allBlank_nil h allBlank_nil
  rwa [List.nil_append, List.append_nil] at hs

theorem Core.on_line (h : Core cs v) (depth : Nat) {behind : List Char} (hb : AllBlank behind) :
    Spells (lineBreak depth ++ (cs ++ behind)) v :=
  .padded (allBlank_lineBreak depth) h hb

mutual

theorem core_renderIndented : ∀ (v : Json) (depth : Nat), v.Legible → Core (v.renderIndented depth) v
  | .null, _, _ => .token token_null
  | .bool b, _, _ => .token (token_bool b)
  | .number n, _, h => .token h
  | .string raw, _, h => .token h
  | .array [], _, _ => @Core.emptyArray [] allBlank_nil
  | .array (v :: vs), depth, h => by
    have hitems := spells_indentItems (v :: vs) (depth + 1) (by simp) h (allBlank_lineBreak depth)
    have hcore := Core.array hitems
    rwa [List.append_assoc] at hcore
  | .object [], _, _ => @Core.emptyObject [] allBlank_nil
  | .object (m :: ms), depth, h => by
    have hmembers := spells_indentMembers (m :: ms) (depth + 1) (by simp) h (allBlank_lineBreak depth)
    have hcore := Core.object hmembers
    rwa [List.append_assoc] at hcore

theorem spells_indentItems : ∀ (vs : List Json) (depth : Nat), vs ≠ [] → LegibleItems vs →
    ∀ {behind : List Char}, AllBlank behind → SpellsItems (indentItems depth vs ++ behind) vs
  | [v], depth, _, h, behind, hb => by
    have hv := core_renderIndented v depth h.1
    rw [indentItems, List.append_assoc]
    exact .last (hv.on_line depth hb)
  | v :: w :: vs, depth, _, h, behind, hb => by
    have hv := core_renderIndented v depth h.1
    have hvs := spells_indentItems (w :: vs) depth (by simp) h.2 hb
    have hmore := SpellsItems.more (hv.on_line depth allBlank_nil) hvs
    simpa only [indentItems, List.append_assoc, List.append_nil, List.cons_append] using hmore

theorem spells_indentMembers : ∀ (ms : List (Json × Json)) (depth : Nat), ms ≠ [] →
    LegibleMembers ms → ∀ {behind : List Char}, AllBlank behind →
      SpellsMembers (indentMembers depth ms ++ behind) ms
  | [(k, v)], depth, _, h, behind, hb => by
    have hk := (Core.token h.1).on_line depth allBlank_nil
    have hv := core_renderIndented v depth h.2.1
    have hlast := SpellsMembers.last hk (.padded allBlank_space hv hb)
    simpa only [indentMembers, List.append_assoc, List.append_nil, List.cons_append, List.nil_append]
      using hlast
  | (k, v) :: m :: ms, depth, _, h, behind, hb => by
    have hk := (Core.token h.1).on_line depth allBlank_nil
    have hv := core_renderIndented v depth h.2.1
    have hms := spells_indentMembers (m :: ms) depth (by simp) h.2.2 hb
    have hmore := SpellsMembers.more hk (.padded
      allBlank_space hv allBlank_nil) hms
    simpa only [indentMembers, List.append_assoc, List.append_nil, List.cons_append, List.nil_append]
      using hmore

end

/-- Indented text is decoded as the value it was made of. -/
theorem decodeText_pretty {α : Type} (h : v.Legible) (decode : Decoder α) :
    decodeText decode v.pretty.toList = decode v := by
  rw [pretty, String.toList_ofList]
  exact (core_renderIndented v 0 h).spells.decodeText decode

end ServiceWatch.Json
