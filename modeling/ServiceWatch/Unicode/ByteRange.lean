import ServiceWatch.Unicode.CodeSet

/-! The UTF-8 bytes of the characters of a set, as rows of byte ranges: a character belongs to the set
if its bytes lie in the ranges of one row, each byte in its own range. -/
namespace ServiceWatch.Unicode

structure ByteRange where
  first : UInt8
  last : UInt8
  deriving DecidableEq

namespace ByteRange

/-- Code points with equally many bytes: those with one byte, with two, with three and with four. -/
def lengths : List (Nat × Nat) := [(0, 0x7F), (0x80, 0x7FF), (0x800, 0xFFFF), (0x10000, 0x10FFFF)]

/-- Cuts a range at the ends of blocks of the given sizes, small blocks first, so that each byte of a
piece can be chosen on its own. -/
def cut : List Nat → Nat → Nat → List (Nat × Nat)
  | [], first, last => [(first, last)]
  | size :: sizes, first, last =>
    if first / size = last / size then [(first, last)]
    else
      let start := if first % size = 0 then first else first - first % size + size
      let stop := if last % size = size - 1 then last + 1 else last - last % size
      let before := if first < start then [(first, start - 1)] else []
      let behind := if stop ≤ last then [(stop, last)] else []
      before ++ (if start < stop then cut sizes start (stop - 1) else []) ++ behind

def row (first last : Nat) : List ByteRange :=
  ((String.utf8EncodeChar (Char.ofNat first)).zip (String.utf8EncodeChar (Char.ofNat last))).map
    fun (a, b) => ⟨a, b⟩

def rowsOfRange (range : Nat × Nat) : List (List ByteRange) :=
  lengths.flatMap fun (low, high) =>
    let first := max range.1 low
    let last := min range.2 high
    if last < first then []
    else if high = 0x7F then [row first last]
    else (cut [64, 4096, 262144] first last).map fun (a, b) => row a b

def rows (s : CodeSet) : List (List ByteRange) := s.ranges.flatMap rowsOfRange

end ByteRange

end ServiceWatch.Unicode
