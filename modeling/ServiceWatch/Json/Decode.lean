import ServiceWatch.Json.Number
import ServiceWatch.Json.Reader
import ServiceWatch.Decimal.Shortest
import ServiceWatch.Text.Quoted

/-!
Decoding JSON into typed values. A text is judged from left to right, and the first thing wrong
with it is the error, whether it breaks the grammar or does not fit the type.
-/
namespace ServiceWatch.Json

inductive Found where
  | null
  | boolean (b : Bool)
  | integer (n : Int)
  | floating (text : String)
  | string (s : String)
  | sequence
  | map

def Found.describe : Found → String
  | .null => "null"
  | .boolean b => "boolean `" ++ (if b then "true" else "false") ++ "`"
  | .integer n => "integer `" ++ String.ofList (Text.Decimal.signed n) ++ "`"
  | .floating text => "floating point `" ++ text ++ "`"
  | .string s => "string " ++ Text.Quoted.quote s
  | .sequence => "sequence"
  | .map => "map"

inductive Mismatch where
  | missingField (name : String)
  | duplicateField (name : String)
  | invalidType (found : Found) (expected : String)
  | invalidValue (n : Int) (expected : String)
  | invalidLength (n : Nat) (expected : String)
  | unknownVariant (name : String) (known : List String)
  /-- The value is a text that the type's own reader refused. -/
  | refused (reason : String)

/-- A list of names as an error message offers it. -/
def offer (names : List String) : String :=
  let quoted := names.map fun name => "`" ++ name ++ "`"
  match quoted with
  | [a] => "expected " ++ a
  | [a, b] => "expected " ++ a ++ " or " ++ b
  | _ => "expected one of " ++ String.intercalate ", " quoted

def Mismatch.message : Mismatch → String
  | .missingField name => "missing field `" ++ name ++ "`"
  | .duplicateField name => "duplicate field `" ++ name ++ "`"
  | .invalidType found expected => "invalid type: " ++ found.describe ++ ", expected " ++ expected
  | .invalidValue n expected =>
    "invalid value: " ++ (Found.integer n).describe ++ ", expected " ++ expected
  | .invalidLength n expected =>
    "invalid length " ++ Text.Decimal.text n ++ ", expected " ++ expected
  | .unknownVariant name known => "unknown variant `" ++ name ++ "`, " ++ offer known
  | .refused reason => reason

/-- Either the text is not JSON, or it is but does not fit. -/
inductive DecodeError where
  | malformed
  | mismatch (cause : Mismatch)

abbrev Decoder (α : Type) := Json → Except DecodeError α

def DecodeError.message : DecodeError → String
  | .malformed => "malformed JSON"
  | .mismatch cause => cause.message

def mismatch {α : Type} (cause : Mismatch) : Except DecodeError α := .error (.mismatch cause)

def text? (raw : List Char) : Option String := (Escape.decode raw).map String.ofList

/-- The error for a value of the wrong type; a literal without a value is malformed rather. -/
def wrongType {α : Type} (expected : String) : Json → Except DecodeError α
  | .null => mismatch (.invalidType .null expected)
  | .bool b => mismatch (.invalidType (.boolean b) expected)
  | .number n =>
    match n.value with
    | none => .error .malformed
    | some (.natural n) => mismatch (.invalidType (.integer n) expected)
    | some (.negative n) => mismatch (.invalidType (.integer (-n)) expected)
    | some (.double x) => mismatch (.invalidType (.floating (Decimal.text x)) expected)
  | .string raw =>
    match text? raw with
    | none => .error .malformed
    | some s => mismatch (.invalidType (.string s) expected)
  | .array _ => mismatch (.invalidType .sequence expected)
  | .object _ => mismatch (.invalidType .map expected)
  | .broken => .error .malformed

/-- A natural number up to `limit`. -/
def decodeNat (limit : Nat) (expected : String) : Decoder Nat
  | .number literal =>
    match literal.value with
    | some (.natural n) => if n ≤ limit then .ok n else mismatch (.invalidValue n expected)
    | some (.negative n) => mismatch (.invalidValue (-n) expected)
    | _ => wrongType expected (.number literal)
  | v => wrongType expected v

def decodeUInt32 : Decoder UInt32 := fun v =>
  (decodeNat (UInt32.size - 1) "u32" v).map UInt32.ofNat

/-- A 64-bit number; the name tells what it counts. -/
def decodeUInt64 (expected : String) : Decoder UInt64 := fun v =>
  (decodeNat (UInt64.size - 1) expected v).map UInt64.ofNat

/-- A string under the name that an error gives it. -/
def decodeStringAs (expected : String) : Decoder String
  | .string raw =>
    match text? raw with
    | none => .error .malformed
    | some s => .ok s
  | v => wrongType expected v

def decodeString : Decoder String := decodeStringAs "a string"

/-- A string that `read` turns into a value or refuses with a reason. -/
def decodeParsed {α : Type} (expected : String) (read : List Char → Except String α) : Decoder α :=
  fun v => do
    let s ← decodeStringAs expected v
    match read s.toList with
    | .ok a => .ok a
    | .error reason => mismatch (.refused reason)

def decodeOption {α : Type} (decode : Decoder α) : Decoder (Option α)
  | .null => .ok none
  | v => (decode v).map some

def decodeList {α : Type} (decode : Decoder α) : Decoder (List α)
  | .array items => items.mapM decode
  | v => wrongType "a sequence" v

def decodeMembers {α : Type} (decode : Decoder α) : List (Json × Json) → Except DecodeError (List (String × α))
  | [] => .ok []
  | (.string raw, v) :: ms =>
    match text? raw with
    | none => .error .malformed
    | some key => do
      let a ← decode v
      return (key, a) :: (← decodeMembers decode ms)
  | _ :: _ => .error .malformed

def decodeMap {α : Type} (decode : Decoder α) : Decoder (List (String × α))
  | .object members => decodeMembers decode members
  | v => wrongType "a map" v

def decodeName {α : Type} (known : List (String × α)) (name : String) : Except DecodeError α :=
  match known.lookup name with
  | some a => .ok a
  | none => mismatch (.unknownVariant name (known.map Prod.fst))

/-- One of a set of named alternatives, as its name or as an object with the name and `null`. -/
def decodeVariant {α : Type} (known : List (String × α)) : Decoder α
  | .string raw =>
    match text? raw with
    | none => .error .malformed
    | some name => decodeName known name
  | .object ((key, v) :: ms) => do
    let name ← decodeStringAs "variant identifier" key
    let a ← decodeName known name
    match v, ms with
    | .null, [] => .ok a
    | .null, _ => .error .malformed
    | v, _ => wrongType "unit" v
  | _ => .error .malformed

/-- When a field may be left out. -/
inductive Presence where
  /-- Never. -/
  | required
  /-- In an object; an array has an element for it. -/
  | optional
  /-- In an object and at the end of an array. -/
  | defaulted
  deriving DecidableEq

/-- A field of a record: its names, the first of which errors use, and a test of its value. -/
structure Field where
  name : String
  aliases : List String
  presence : Presence
  check : Json → Except DecodeError Unit

/-- A field goes by its name and by its aliases. -/
def Field.matches (f : Field) (key : String) : Bool := f.name = key || f.aliases.contains key

/-- How a record is read: its fields in declaration order, and its value from those that are present. -/
structure Shape (α : Type) where
  fields : List Field
  build : (String → Option Json) → Except DecodeError α

namespace Shape

def pure {α : Type} (a : α) : Shape α := ⟨[], fun _ => .ok a⟩

def and {α β : Type} (f : Shape (α → β)) (x : Shape α) : Shape β :=
  ⟨f.fields ++ x.fields, fun find => do
    let g ← f.build find
    let a ← x.build find
    return g a⟩

/-- A field that has to be there, under any of several names. -/
def requiredAs {α : Type} (name : String) (aliases : List String) (decode : Decoder α) : Shape α where
  fields := [⟨name, aliases, .required, fun v => (decode v).map fun _ => ()⟩]
  build find :=
    match find name with
    | some v => decode v
    | none => mismatch (.missingField name)

def required {α : Type} (name : String) (decode : Decoder α) : Shape α := requiredAs name [] decode

/-- A field that may be absent or `null`. -/
def optional {α : Type} (name : String) (decode : Decoder α) : Shape (Option α) where
  fields := [⟨name, [], .optional, fun v => (decodeOption decode v).map fun _ => ()⟩]
  build find :=
    match find name with
    | some v => decodeOption decode v
    | none => .ok none

/-- A field with a value of its own if it is absent. -/
def defaulted {α : Type} (name : String) (decode : Decoder α) (default : α) : Shape α where
  fields := [⟨name, [], .defaulted, fun v => (decode v).map fun _ => ()⟩]
  build find :=
    match find name with
    | some v => decode v
    | none => .ok default

/-- Walks over the members of an object and collects the values of known fields under their names. -/
def collect (fields : List Field) : List (String × Json) → List (Json × Json) →
    Except DecodeError (List (String × Json))
  | seen, [] => .ok seen
  | seen, (.string raw, v) :: ms =>
    match text? raw with
    | none => .error .malformed
    | some key =>
      match fields.find? (·.matches key) with
      | none => if v.intact then collect fields seen ms else .error .malformed
      | some field =>
        if (seen.lookup field.name).isSome then mismatch (.duplicateField field.name)
        else do
          field.check v
          collect fields (seen ++ [(field.name, v)]) ms
  | _, _ :: _ => .error .malformed

/-- Walks over the elements of an array, which give the fields in declaration order. -/
def arrange (expected : String) : List Field → List Json → Nat →
    Except DecodeError (List (String × Json))
  | [], [], _ => .ok []
  | [], _ :: _, _ => .error .malformed
  | field :: fields, [], n =>
    if field.presence = .defaulted then arrange expected fields [] (n + 1)
    else mismatch (.invalidLength n expected)
  | field :: fields, v :: vs, n => do
    field.check v
    return (field.name, v) :: (← arrange expected fields vs (n + 1))

/-- Reads a record from an object or from an array. -/
def decode {α : Type} (shape : Shape α) (name : String) : Decoder α
  | .object members => do
    let seen ← collect shape.fields [] members
    shape.build fun field => List.lookup field seen
  | .array items => do
    let expected :=
      name ++ " with " ++ Text.Decimal.text shape.fields.length ++
        (if shape.fields.length = 1 then " element" else " elements")
    let seen ← arrange expected shape.fields items 0
    shape.build fun field => List.lookup field seen
  | v => wrongType name v

end Shape

/-- Decodes a whole text; anything but blanks behind the value is an error. -/
def decodeText {α : Type} (decode : Decoder α) (text : List Char) : Except DecodeError α := do
  let document := Document.read text
  let a ← decode document.value
  if document.complete then .ok a else .error .malformed

end ServiceWatch.Json
