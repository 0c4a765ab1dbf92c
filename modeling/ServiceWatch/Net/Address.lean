import ServiceWatch.Text.Decimal
import ServiceWatch.Text.Hexadecimal
import ServiceWatch.Text.Split

/-! IP addresses: their order, their canonical text, and the texts that read as one. -/
namespace ServiceWatch

/-- An address of version 4 by its bytes, or of version 6 by its groups. -/
inductive Address where
  | v4 (a b c d : UInt8)
  | v6 (a b c d e f g h : UInt16)
  deriving DecidableEq

namespace Address

open ServiceWatch.Text

/-- The groups of a version 6 address, or the bytes of a version 4 address. -/
def parts : Address → List Nat
  | .v4 a b c d => [a.toNat, b.toNat, c.toNat, d.toNat]
  | .v6 a b c d e f g h =>
    [a.toNat, b.toNat, c.toNat, d.toNat, e.toNat, f.toNat, g.toNat, h.toNat]

/-- Every address of version 4 comes before every one of version 6; within a version, numbers decide. -/
def key : Address → List Nat
  | .v4 a b c d => 4 :: (Address.v4 a b c d).parts
  | .v6 a b c d e f g h => 6 :: (Address.v6 a b c d e f g h).parts

def le (x y : Address) : Bool := !y.key.lex x.key fun m n => decide (m < n)

/-! ### Writing -/

def dotted (a b c d : Nat) : List Char :=
  Decimal.digits a ++ '.' :: (Decimal.digits b ++ '.' :: (Decimal.digits c ++ '.' :: Decimal.digits d))

def joined : List Nat → List Char
  | [] => []
  | [g] => Hexadecimal.digits g
  | g :: h :: gs => Hexadecimal.digits g ++ ':' :: joined (h :: gs)

/-- How many zeros stand at the start of the groups. -/
def zeros (gs : List Nat) : Nat := (gs.takeWhile (· = 0)).length

/-- The start and the length of the longest run of zeros, the first of several; both count from `start`. -/
def longestRun : List Nat → Nat → Nat × Nat
  | [], start => (start, 0)
  | g :: gs, start =>
    let here := zeros (g :: gs)
    let later := longestRun gs (start + 1)
    if later.2 ≤ here then (start, here) else later

/-- The text of eight groups: the longest run of two or more zeros becomes a double colon. -/
def grouped (gs : List Nat) : List Char :=
  let (start, length) := longestRun gs 0
  if 2 ≤ length then joined (gs.take start) ++ ':' :: ':' :: joined (gs.drop (start + length))
  else joined gs

/-- The text of an address; the bytes of an IPv4-mapped one are written in decimal. -/
def render : Address → List Char
  | .v4 a b c d => dotted a.toNat b.toNat c.toNat d.toNat
  | .v6 a b c d e f g h =>
    if a = 0 ∧ b = 0 ∧ c = 0 ∧ d = 0 ∧ e = 0 ∧ f = 0xFFFF then
      "::ffff:".toList ++ dotted (g.toNat / 256) (g.toNat % 256) (h.toNat / 256) (h.toNat % 256)
    else grouped (Address.v6 a b c d e f g h).parts

def text (x : Address) : String := String.ofList x.render

/-! ### Reading -/

/-- A byte: one to three decimal digits without a leading zero, at most 255. -/
def byte? (cs : List Char) : Option Nat :=
  if cs.isEmpty || 3 < cs.length || !cs.all Char.isDigit then none
  else if cs.head? = some '0' && 1 < cs.length then none
  else
    let n := Decimal.value cs
    if n < 256 then some n else none

def bytes? (cs : List Char) : Option (Nat × Nat × Nat × Nat) :=
  match (split '.' cs).mapM byte? with
  | some [a, b, c, d] => some (a, b, c, d)
  | _ => none

/-- A group: one to four hexadecimal digits. -/
def group? (cs : List Char) : Option Nat :=
  if cs.isEmpty || 4 < cs.length then none else Hexadecimal.value? cs

/-- The groups of pieces between colons; the last piece may be four bytes if `tail` allows it. -/
def groups? (tail : Bool) : List (List Char) → Option (List Nat)
  | [] => some []
  | [piece] =>
    match group? piece with
    | some g => some [g]
    | none =>
      if tail then
        match bytes? piece with
        | some (a, b, c, d) => some [256 * a + b, 256 * c + d]
        | none => none
      else none
  | piece :: pieces => do
    let g ← group? piece
    return g :: (← groups? tail pieces)

/-- The groups of one side of a double colon, which may be empty. -/
def side? (tail : Bool) (cs : List Char) : Option (List Nat) :=
  if cs.isEmpty then some [] else groups? tail (split ':' cs)

def cut? : List Char → Option (List Char × List Char)
  | ':' :: ':' :: cs => some ([], cs)
  | c :: cs => (cut? cs).map fun (before, behind) => (c :: before, behind)
  | [] => none

def ofGroups? : List Nat → Option Address
  | [a, b, c, d, e, f, g, h] =>
    some (.v6 (.ofNat a) (.ofNat b) (.ofNat c) (.ofNat d) (.ofNat e) (.ofNat f) (.ofNat g) (.ofNat h))
  | _ => none

/-- Eight groups, or fewer with one double colon that stands for at least one group of zero. -/
def readV6 (cs : List Char) : Option Address :=
  match cut? cs with
  | none => groups? true (split ':' cs) >>= ofGroups?
  | some (before, behind) => do
    let front ← side? false before
    let back ← side? true behind
    if front.length + back.length < 8 then
      ofGroups? (front ++ List.replicate (8 - front.length - back.length) 0 ++ back)
    else none

def read (cs : List Char) : Option Address :=
  match bytes? cs with
  | some (a, b, c, d) => some (.v4 (.ofNat a) (.ofNat b) (.ofNat c) (.ofNat d))
  | none => readV6 cs

end Address

end ServiceWatch
