/-! Tables over all code points as texts: the lengths of runs of equal values. -/
namespace ServiceWatch.Unicode.RunLength

/-- Reads lengths: a letter from `a` to `z` is 1 to 26, other lengths are in decimal and end at a letter or a point. -/
def readLengths : List Char → Option Nat → List Nat
  | [], opened => opened.toList
  | c :: cs, opened =>
    if c.isDigit then readLengths cs (some (10 * opened.getD 0 + (c.toNat - 48)))
    else if c = '.' then opened.toList ++ readLengths cs none
    else opened.toList ++ (c.toNat - 96) :: readLengths cs none

/-- Reads runs behind a code point: a sign for the value, then the length, which is left out if it is one.
Each run is given by the first code point behind it. -/
def readRuns : List Char → Nat → List (Nat × Char)
  | [], _ => []
  | c :: cs, start =>
    if c.isDigit then readRuns cs start
    else
      let ds := cs.takeWhile Char.isDigit
      let length := if ds.isEmpty then 1 else ds.foldl (fun n d => 10 * n + (d.toNat - 48)) 0
      (start + length, c) :: readRuns cs (start + length)

def characters (parts : List String) : List Char := parts.flatMap String.toList

end ServiceWatch.Unicode.RunLength
