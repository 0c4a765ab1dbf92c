import ServiceWatch.Text.Decimal

/-!
UTF-8: the characters of well-formed bytes, where other bytes stop being well-formed, and reading
them with a replacement for what is not.
-/
namespace ServiceWatch.Text.Utf8

/-- How many bytes a character has that starts with a given one, and the range of the second of them. -/
def lead? (b : UInt8) : Option (Nat × UInt8 × UInt8) :=
  if b < 0x80 then some (1, 0x80, 0xBF)
  else if 0xC2 ≤ b ∧ b ≤ 0xDF then some (2, 0x80, 0xBF)
  else if b = 0xE0 then some (3, 0xA0, 0xBF)
  else if b = 0xED then some (3, 0x80, 0x9F)
  else if 0xE1 ≤ b ∧ b ≤ 0xEF then some (3, 0x80, 0xBF)
  else if b = 0xF0 then some (4, 0x90, 0xBF)
  else if 0xF1 ≤ b ∧ b ≤ 0xF3 then some (4, 0x80, 0xBF)
  else if b = 0xF4 then some (4, 0x80, 0x8F)
  else none

/-- Where bytes stop being text. -/
inductive Break where
  /-- So many bytes cannot stand there, whatever follows. -/
  | invalid (length : Nat)
  /-- The bytes end within a character. -/
  | incomplete
  deriving DecidableEq

/-- Takes continuation bytes whose first lies in a range: how many were good, and the value built up. -/
def continued (lo hi : UInt8) (value : Nat) : Nat → List UInt8 → Nat × Option Nat
  | 0, _ => (0, some value)
  | _ + 1, [] => (0, none)
  | n + 1, b :: bs =>
    if lo ≤ b ∧ b ≤ hi then
      let (good, result) := continued 0x80 0xBF (value * 64 + (b.toNat - 0x80)) n bs
      (good + 1, result)
    else (0, none)

/-- The bits of a character that its first byte carries. -/
def leadBits (length : Nat) (b : UInt8) : Nat :=
  match length with
  | 1 => b.toNat
  | 2 => b.toNat - 0xC0
  | 3 => b.toNat - 0xE0
  | _ => b.toNat - 0xF0

/-- The first character of bytes and its length, or how the bytes break. -/
def step (b : UInt8) (bs : List UInt8) : Except Break (Char × Nat) :=
  match lead? b with
  | none => .error (.invalid 1)
  | some (length, lo, hi) =>
    match continued lo hi (leadBits length b) (length - 1) bs with
    | (_, some value) => .ok (Char.ofNat value, length)
    | (good, none) =>
      if bs.length ≤ good then .error .incomplete else .error (.invalid (good + 1))

/-- Bytes that are no text: the number of good bytes before the first break, and the break. -/
structure Malformed where
  position : Nat
  cause : Break
  deriving DecidableEq

def Malformed.message (m : Malformed) : String :=
  match m.cause with
  | .invalid length =>
    "invalid utf-8 sequence of " ++ Decimal.text length ++ " bytes from index " ++
      Decimal.text m.position
  | .incomplete => "incomplete utf-8 byte sequence from index " ++ Decimal.text m.position

/-- The characters of bytes that are text throughout. -/
def decode (bytes : List UInt8) : Except Malformed (List Char) := go bytes.length 0 bytes
where
  /-- Decodes the bytes behind a position. -/
  go : Nat → Nat → List UInt8 → Except Malformed (List Char)
    | _, _, [] => .ok []
    | 0, _, _ :: _ => .ok []
    | fuel + 1, position, b :: bs =>
      match step b bs with
      | .error cause => .error ⟨position, cause⟩
      | .ok (c, length) => (go fuel (position + length) (bs.drop (length - 1))).map (c :: ·)

def replacement : Char := '\uFFFD'

/-- The characters of bytes, with a replacement for each part that cannot start or end a character. -/
def decodeLossy (bytes : List UInt8) : List Char := go bytes.length bytes
where
  /-- Decodes bytes as long as there are any. -/
  go : Nat → List UInt8 → List Char
    | _, [] => []
    | 0, _ :: _ => []
    | fuel + 1, b :: bs =>
      match step b bs with
      | .ok (c, length) => c :: go fuel (bs.drop (length - 1))
      | .error (.invalid length) => replacement :: go fuel (bs.drop (length - 1))
      | .error .incomplete => [replacement]

end ServiceWatch.Text.Utf8
