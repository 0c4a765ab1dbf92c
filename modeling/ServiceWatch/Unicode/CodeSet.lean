import ServiceWatch.Unicode.RunLength

/-! Sets of code points, given by the places where membership changes. -/
namespace ServiceWatch.Unicode

/-- A set of code points: in ascending order, those at which it starts and stops in turn. -/
structure CodeSet where
  bounds : List Nat
  deriving DecidableEq

namespace CodeSet

/-- A code point lies in the set if an odd number of bounds is not behind it. -/
def contains (s : CodeSet) (x : Nat) : Bool := (s.bounds.takeWhile (· ≤ x)).length % 2 = 1

def empty : CodeSet := ⟨[]⟩

/-- All code points that are characters, which leaves out the surrogates. -/
def characters : CodeSet := ⟨[0, 0xD800, 0xE000, 0x110000]⟩

/-- The bounds of a combined set, from the bounds of two sets that are still ahead. The flags tell
whether the code points just behind lie in the first set, in the second one and in the combined one. -/
def merge (f : Bool → Bool → Bool) : Bool → Bool → Bool → List Nat → List Nat → List Nat
  | _, _, _, [], [] => []
  | a, b, c, x :: xs, [] => turn (f (!a) b) c x (merge f (!a) b (f (!a) b) xs [])
  | a, b, c, [], y :: ys => turn (f a (!b)) c y (merge f a (!b) (f a (!b)) [] ys)
  | a, b, c, x :: xs, y :: ys =>
    if x < y then turn (f (!a) b) c x (merge f (!a) b (f (!a) b) xs (y :: ys))
    else if y < x then turn (f a (!b)) c y (merge f a (!b) (f a (!b)) (x :: xs) ys)
    else turn (f (!a) (!b)) c x (merge f (!a) (!b) (f (!a) (!b)) xs ys)
termination_by _ _ _ xs ys => xs.length + ys.length
where
  /-- Puts a bound where membership changes. -/
  turn (now before : Bool) (x : Nat) (rest : List Nat) : List Nat :=
    if now = before then rest else x :: rest

/-- The set whose membership is found from that in two sets; what lies in neither is left out. -/
def combine (f : Bool → Bool → Bool) (s t : CodeSet) : CodeSet :=
  ⟨merge f false false false s.bounds t.bounds⟩

def union : CodeSet → CodeSet → CodeSet := combine fun a b => a || b

def inter : CodeSet → CodeSet → CodeSet := combine fun a b => a && b

def diff : CodeSet → CodeSet → CodeSet := combine fun a b => a && !b

def symmetric : CodeSet → CodeSet → CodeSet := combine Bool.xor

def compl (s : CodeSet) : CodeSet := diff characters s

def range (first last : Nat) : CodeSet :=
  if first ≤ last then inter characters ⟨[first, last + 1]⟩ else empty

def single (c : Char) : CodeSet := ⟨[c.toNat, c.toNat + 1]⟩

def unions (sets : List CodeSet) : CodeSet := sets.foldl union empty

/-- The ranges that a set is made of, each by its first and its last code point. -/
def ranges (s : CodeSet) : List (Nat × Nat) := go s.bounds
where
  /-- Pairs each start with the stop behind it. -/
  go : List Nat → List (Nat × Nat)
    | a :: b :: rest => (a, b - 1) :: go rest
    | _ => []

/-- The bounds of a set of code points that come in ascending order, where a run may be open that stops
before a code point. -/
def boundsOf : Option Nat → List Nat → List Nat
  | stop, [] => stop.toList
  | none, x :: xs => x :: boundsOf (some (x + 1)) xs
  | some stop, x :: xs =>
    if x < stop then boundsOf (some stop) xs
    else if x = stop then boundsOf (some (x + 1)) xs
    else stop :: x :: boundsOf (some (x + 1)) xs

def ofList (xs : List Nat) : CodeSet := ⟨boundsOf none (xs.mergeSort fun a b => a ≤ b)⟩

/-- The set whose complement and itself take turns with the given lengths, the complement first. -/
def ofLengths (lengths : List Nat) : CodeSet :=
  ⟨(lengths.foldl (fun (acc : List Nat × Nat) n => ((acc.2 + n) :: acc.1, acc.2 + n)) ([], 0)).1.reverse⟩

def ofTable (parts : List String) : CodeSet :=
  .ofLengths (RunLength.readLengths (RunLength.characters parts) none)

def ofRuns {α : Type} (wanted : α → Bool) (runs : List (Nat × α)) : CodeSet := ⟨go 0 false runs⟩
where
  /-- The bounds from a code point on, where the flag tells whether those just behind are in the set. -/
  go (start : Nat) (inside : Bool) : List (Nat × α) → List Nat
    | [] => if inside then [start] else []
    | (stop, value) :: rest =>
      if wanted value = inside then go stop inside rest else start :: go stop (!inside) rest

end CodeSet

end ServiceWatch.Unicode
