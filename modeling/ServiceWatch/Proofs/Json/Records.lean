import Mathlib.Data.List.Forall2
import ServiceWatch.Json.Access
import ServiceWatch.Proofs.Json.Compact

/-! Types whose values come back from what is written for them, and how records are made of them. -/
namespace ServiceWatch.Json

/-- Each value of a type is written so that reading gives it back. -/
structure Lossless {α : Type} (encode : α → Json) (decode : Decoder α) : Prop where
  written : ∀ a, Written (encode a)
  decode_encode : ∀ a, decode (encode a) = .ok a

section

variable {α : Type} {encode : α → Json} {decode : Decoder α}

/-- The text of a value is decoded as this value. -/
theorem Lossless.decodeText (h : Lossless encode decode) (a : α) :
    decodeText decode (encode a).compact.toList = .ok a := by
  rw [decodeText_compact (h.written a).legible, h.decode_encode]

/-! ### Numbers and texts -/

theorem decodeNat_ofNat {limit n : Nat} (expected : String) (hlimit : limit < UInt64.size)
    (hn : n ≤ limit) : decodeNat limit expected (ofNat n) = .ok n := by
  simp only [ofNat, decodeNat, NumberText.value_digits (Nat.lt_of_le_of_lt hn hlimit), if_pos hn]

theorem lossless_uint32 : Lossless (fun n : UInt32 => ofNat n.toNat) decodeUInt32 where
  written n := .ofNat n.toNat
  decode_encode n := by
    rw [decodeUInt32, decodeNat_ofNat "u32" (by decide) (Nat.le_sub_one_of_lt n.toNat_lt_size)]
    exact congrArg Except.ok UInt32.ofNat_toNat

theorem lossless_uint64 (expected : String) :
    Lossless (fun n : UInt64 => ofNat n.toNat) (decodeUInt64 expected) where
  written n := .ofNat n.toNat
  decode_encode n := by
    rw [decodeUInt64, decodeNat_ofNat expected (by decide) (Nat.le_sub_one_of_lt n.toNat_lt_size)]
    exact congrArg Except.ok UInt64.ofNat_toNat

theorem lossless_string : Lossless ofString decodeString where
  written := .ofString
  decode_encode := decodeStringAs_ofString "a string"

/-- Values that stand as texts are read back if their texts are. -/
theorem lossless_parsed {text : α → String} {read : List Char → Except String α} (expected : String)
    (h : ∀ a, read (text a).toList = .ok a) :
    Lossless (fun a => ofString (text a)) (decodeParsed expected read) where
  written a := .ofString (text a)
  decode_encode a := by
    simp only [decodeParsed, decodeStringAs_ofString, bind, Except.bind, h]

theorem lossless_name {known : List (String × α)} {name : α → String}
    (h : ∀ a, known.lookup (name a) = some a) :
    Lossless (fun a => ofString (name a)) (decodeVariant known) where
  written a := .ofString (name a)
  decode_encode a := by
    simp only [ofString, decodeVariant, text?_encode, decodeName, h]

/-! ### Options and lists -/

theorem Lossless.option (h : Lossless encode decode) (hnull : ∀ a, encode a ≠ .null) :
    Lossless (ofOption encode) (decodeOption decode) where
  written
    | none => .null
    | some a => h.written a
  decode_encode
    | none => rfl
    | some a => by
      have hsome : decodeOption decode (encode a) = (decode (encode a)).map some := by
        rw [decodeOption]
        exact hnull a
      rw [ofOption, hsome, h.decode_encode]
      rfl

theorem Lossless.list (h : Lossless encode decode) :
    Lossless (fun as => .array (as.map encode)) (decodeList decode) where
  written as := .array fun v hv => by
    obtain ⟨a, -, rfl⟩ := List.mem_map.1 hv
    exact h.written a
  decode_encode as := by
    rw [decodeList]
    induction as with
    | nil => rfl
    | cons a as ih =>
      rw [List.map_cons, List.mapM_cons, h.decode_encode, ih]
      rfl

end

/-! ### Records -/

theorem members_record (fields : List (String × Json)) : (record fields).members = fields := by
  rw [record, members]
  induction fields with
  | nil => rfl
  | cons f fields ih =>
    rw [List.map_cons, List.filterMap_cons, ih]
    simp only [ofString, text?_encode, Option.map_some]

/-- A member that a field is read from. -/
structure Field.Fits (f : Field) (member : String × Json) : Prop where
  name : f.name = member.1
  written : Written member.2
  check : f.check member.2 = .ok ()

namespace Field

/-- No field goes by the name of one behind it. -/
def Distinct (fields : List Field) : Prop := fields.Pairwise fun f g => f.matches g.name = false

instance : DecidablePred Distinct := fun fields =>
  inferInstanceAs (Decidable (fields.Pairwise fun f g => f.matches g.name = false))

theorem name_ne_of_matches {f : Field} {key : String} (h : f.matches key = false) : f.name ≠ key := by
  simp only [Field.matches, Bool.or_eq_false_iff, decide_eq_false_iff_not] at h
  exact h.1

variable {fields : List Field} {members : List (String × Json)}

theorem exists_fits (h : List.Forall₂ Field.Fits fields members) :
    ∀ m ∈ members, ∃ f ∈ fields, f.Fits m := by
  induction h with
  | nil => simp
  | cons hfit _ ih =>
    intro m hm
    rcases List.mem_cons.1 hm with rfl | hm
    · exact ⟨_, List.mem_cons_self, hfit⟩
    · obtain ⟨f, hf, hfit⟩ := ih m hm
      exact ⟨f, List.mem_cons_of_mem _ hf, hfit⟩

theorem lookup_of_fits (hd : Distinct fields) (h : List.Forall₂ Field.Fits fields members) :
    ∀ m ∈ members, members.lookup m.1 = some m.2 := by
  induction h with
  | nil => simp
  | cons hfit hrest ih =>
    rw [Distinct, List.pairwise_cons] at hd
    intro m hm
    rcases List.mem_cons.1 hm with rfl | hm
    · exact List.lookup_cons_self
    · obtain ⟨g, hg, hname, -⟩ := exists_fits hrest m hm
      have hne := name_ne_of_matches (hd.1 g hg)
      rw [List.lookup_cons, ← hfit.name, ← hname, beq_eq_false_iff_ne.2 hne.symm, hname]
      exact ih hd.2 m hm

end Field

namespace Shape

variable {α β : Type}

/-- Members that stand for the fields of a shape one by one, and for a value as a whole. -/
structure Reads (shape : Shape α) (members : List (String × Json)) (a : α) : Prop where
  fits : List.Forall₂ Field.Fits shape.fields members
  build : ∀ find, (∀ m ∈ members, find m.1 = some m.2) → shape.build find = .ok a

namespace Reads

theorem pure (a : α) : (Shape.pure a).Reads [] a := ⟨.nil, fun _ _ => rfl⟩

theorem and {f : Shape (α → β)} {x : Shape α} {ms ns : List (String × Json)} {g : α → β} {a : α}
    (hf : f.Reads ms g) (hx : x.Reads ns a) : (f.and x).Reads (ms ++ ns) (g a) where
  fits := List.rel_append hf.fits hx.fits
  build find hfind := by
    rw [List.forall_mem_append] at hfind
    change (do
      let g ← f.build find
      let a ← x.build find
      return g a) = _
    rw [hf.build find hfind.1, hx.build find hfind.2]
    rfl

theorem required {encode : α → Json} {decode : Decoder α} (h : Lossless encode decode)
    (name : String) (aliases : List String) (a : α) :
    (requiredAs name aliases decode).Reads [(name, encode a)] a where
  fits := .cons ⟨rfl, h.written a, by simp [h.decode_encode, Except.map]⟩ .nil
  build find hfind := by
    simp only [requiredAs, hfind _ List.mem_cons_self, h.decode_encode]

theorem optional {encode : Option α → Json} {decode : Decoder α}
    (h : Lossless encode (decodeOption decode)) (name : String) (a : Option α) :
    (Shape.optional name decode).Reads [(name, encode a)] a where
  fits := .cons ⟨rfl, h.written a, by simp [h.decode_encode, Except.map]⟩ .nil
  build find hfind := by
    simp only [Shape.optional, hfind _ List.mem_cons_self, h.decode_encode]

end Reads

theorem collect_cons {fields : List Field} {seen : List (String × Json)} {name : String} {v : Json}
    {f : Field} (ms : List (Json × Json)) (hfind : fields.find? (·.matches name) = some f)
    (hnew : seen.lookup f.name = none) (hcheck : f.check v = .ok ()) :
    collect fields seen ((ofString name, v) :: ms) = collect fields (seen ++ [(f.name, v)]) ms := by
  rw [ofString, collect, text?_encode]
  simp only [hfind, hnew, hcheck]
  rfl

/-- The members behind those seen are collected, if they stand for the next fields. -/
theorem collect_append {front back : List Field} {seen members : List (String × Json)}
    (hd : Field.Distinct (front ++ back)) (hseen : List.Forall₂ Field.Fits front seen)
    (h : List.Forall₂ Field.Fits back members) :
    collect (front ++ back) seen (members.map fun (name, value) => (ofString name, value)) =
      .ok (seen ++ members) := by
  induction h generalizing front seen with
  | nil => simp [collect]
  | @cons f m back members hfit _ ih =>
    obtain ⟨name, v⟩ := m
    obtain rfl : f.name = name := hfit.name
    -- the fields in front have their members already, and none of them takes this one
    have hfront : ∀ g ∈ front, g.matches f.name = false := fun g hg =>
      (List.pairwise_append.1 hd).2.2 g hg f List.mem_cons_self
    have hfind : (front ++ f :: back).find? (·.matches f.name) = some f := by
      have hself : f.matches f.name = true := by simp [Field.matches]
      rw [List.find?_append, List.find?_eq_none.2 (by simpa using hfront)]
      simp [hself]
    have hnew : seen.lookup f.name = none := by
      rw [List.lookup_eq_none_iff]
      intro m hm
      obtain ⟨g, hg, hname, -⟩ := Field.exists_fits hseen m hm
      have hne := Field.name_ne_of_matches (hfront g hg)
      rw [hname] at hne
      simpa using hne.symm
    have hsplit : front ++ f :: back = front ++ [f] ++ back := by simp
    rw [List.map_cons, collect_cons _ hfind hnew hfit.check, hsplit,
      ih (hsplit ▸ hd) (List.rel_append hseen (.cons hfit .nil))]
    simp

/-- A record is decoded as the value that its members stand for. -/
theorem Reads.decode_record {shape : Shape α} {members : List (String × Json)} {a : α}
    (hd : Field.Distinct shape.fields) (h : shape.Reads members a) (what : String) :
    shape.decode what (.record members) = .ok a := by
  have hcollect : collect ([] ++ shape.fields) [] _ = .ok ([] ++ members) :=
    collect_append hd .nil h.fits
  rw [List.nil_append, List.nil_append] at hcollect
  simp only [record, Shape.decode, hcollect]
  exact h.build _ (Field.lookup_of_fits hd h.fits)

end Shape

/-- Records come back whose members stand for the fields of a shape. -/
theorem lossless_record {α : Type} {shape : Shape α} {members : α → List (String × Json)}
    (what : String) (hd : Field.Distinct shape.fields) (h : ∀ a, shape.Reads (members a) a) :
    Lossless (fun a => .record (members a)) (shape.decode what) where
  written a := .record fun m hm => by
    obtain ⟨f, -, hfit⟩ := Field.exists_fits (h a).fits m hm
    exact hfit.written
  decode_encode a := (h a).decode_record hd what

end ServiceWatch.Json
