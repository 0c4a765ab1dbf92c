import ServiceWatch.Text.Hexadecimal

/-! String literals: the text between the quotes and the characters it stands for. -/
namespace ServiceWatch.Json.Escape

open ServiceWatch.Text

/-- The written form of one character: quotes, backslashes and control characters are escaped. -/
def encodeChar (c : Char) : List Char :=
  if c = '"' then ['\\', '"']
  else if c = '\\' then ['\\', '\\']
  else if c = '\n' then ['\\', 'n']
  else if c = '\r' then ['\\', 'r']
  else if c = '\t' then ['\\', 't']
  else if c.toNat = 8 then ['\\', 'b']
  else if c.toNat = 12 then ['\\', 'f']
  else if c.toNat < 32 then '\\' :: 'u' :: Hexadecimal.padded 4 c.toNat
  else [c]

/-- The written form of a string, without the quotes around it. -/
def encode (s : List Char) : List Char := s.flatMap encodeChar

/-- The character that a one-letter escape stands for. -/
def short? : Char → Option Char
  | '"' => some '"'
  | '\\' => some '\\'
  | '/' => some '/'
  | 'b' => some (Char.ofNat 8)
  | 'f' => some (Char.ofNat 12)
  | 'n' => some '\n'
  | 'r' => some '\r'
  | 't' => some '\t'
  | _ => none

/--
Splits off the text up to the closing quote, and the rest behind it.

Every escape has to be one of the one-letter escapes or `u` with four hexadecimal digits, and
control characters may not stand in a literal; which numbers the digits give is not looked at.
-/
def scan : List Char → Option (List Char × List Char)
  | [] => none
  | '"' :: rest => some ([], rest)
  | '\\' :: 'u' :: a :: b :: c :: d :: rest =>
    if [a, b, c, d].all (fun h => (Hexadecimal.digitValue? h).isSome) then
      (scan rest).map fun (raw, rest) => ('\\' :: 'u' :: a :: b :: c :: d :: raw, rest)
    else none
  | '\\' :: e :: rest =>
    if (short? e).isSome then (scan rest).map fun (raw, rest) => ('\\' :: e :: raw, rest)
    else none
  | c :: rest =>
    if c = '\\' || c.toNat < 32 then none
    else (scan rest).map fun (raw, rest) => (c :: raw, rest)

def unit? (a b c d : Char) : Option Nat := Hexadecimal.value? [a, b, c, d]

/-- The first half of a surrogate pair. -/
def isLeading (u : Nat) : Bool := 0xD800 ≤ u && u < 0xDC00

/-- The second half of a surrogate pair. -/
def isTrailing (u : Nat) : Bool := 0xDC00 ≤ u && u < 0xE000

/-- The characters that a literal stands for; a surrogate that stands alone has none. -/
def decode : List Char → Option (List Char)
  | [] => some []
  | '\\' :: 'u' :: a :: b :: c :: d :: rest => do
    let u ← unit? a b c d
    if isLeading u then
      match rest with
      | '\\' :: 'u' :: a' :: b' :: c' :: d' :: rest' => do
        let v ← unit? a' b' c' d'
        if isTrailing v then
          (decode rest').map (Char.ofNat (0x10000 + (u - 0xD800) * 0x400 + (v - 0xDC00)) :: ·)
        else none
      | _ => none
    else if isTrailing u then none
    else (decode rest).map (Char.ofNat u :: ·)
  | '\\' :: e :: rest => do
    let c ← short? e
    (decode rest).map (c :: ·)
  | c :: rest => if c = '\\' then none else (decode rest).map (c :: ·)

end ServiceWatch.Json.Escape
