import ServiceWatch.Unicode.CodeSet

/-! Search patterns in a simplified form, and how they are put together. -/
namespace ServiceWatch

namespace Pattern

inductive Look where
  | textStart
  | textEnd
  | lineStart
  | lineEnd
  /-- Lines that end with a carriage return and a line feed or with either of them. -/
  | looseLineStart
  | looseLineEnd
  /-- A change between word characters and others; the flag restricts words to ASCII. -/
  | wordBoundary (ascii : Bool)
  | noWordBoundary (ascii : Bool)
  | wordStart (ascii : Bool)
  | wordEnd (ascii : Bool)
  | wordStartHalf (ascii : Bool)
  | wordEndHalf (ascii : Bool)
  deriving DecidableEq

end Pattern

inductive Pattern where
  | empty
  /-- Some characters in a row. -/
  | text (cs : List Char)
  /-- One character of a set. -/
  | set (s : Unicode.CodeSet)
  | look (l : Pattern.Look)
  /-- A pattern and what follows it. -/
  | seq (first rest : Pattern)
  /-- A pattern and the other ones that may stand in its place. -/
  | alt (first rest : Pattern)
  /-- At least `least` times, and at most `most` times if there is a limit, rather more or rather fewer. -/
  | repeated (a : Pattern) (least : Nat) (most : Option Nat) (lazy : Bool)
  /-- A group that is remembered under its number. -/
  | group (number : Nat) (a : Pattern)
  deriving DecidableEq

namespace Pattern

open Unicode (CodeSet)

/-! ### Lengths and ends of matches -/

/-- The fewest bytes of a match, which is missing where a part of the pattern matches nothing. -/
def minLength? : Pattern → Option Nat
  | .empty => some 0
  | .text cs => some ((cs.map Char.utf8Size).foldl (· + ·) 0)
  | .set s => s.ranges.head?.map fun range => (Char.ofNat range.1).utf8Size
  | .look _ => some 0
  | .seq a b => do return (← a.minLength?) + (← b.minLength?)
  | .alt a b => do return min (← a.minLength?) (← b.minLength?)
  | .repeated a least _ _ => a.minLength?.map (· * least)
  | .group _ a => a.minLength?

/-- What holds at one end of a pattern: a match begins or ends there with the text itself, and the
pattern takes no characters at all. -/
structure Edge where
  asked : Bool
  bare : Bool

/-- The edge of two patterns side by side; the second one counts where the first one takes nothing. -/
def Edge.beside (near far : Edge) : Edge := ⟨near.asked || (near.bare && far.asked), near.bare && far.bare⟩

/-- What a pattern says outright about its first end, or its last one. -/
def edge (last : Bool) : Pattern → Edge
  | .empty => ⟨false, true⟩
  | .text cs => ⟨false, cs.isEmpty⟩
  | .set _ => ⟨false, false⟩
  | .look l => ⟨l = if last then .textEnd else .textStart, true⟩
  | .seq a b => if last then (b.edge last).beside (a.edge last) else (a.edge last).beside (b.edge last)
  | .alt a b =>
    let one := a.edge last
    let other := b.edge last
    ⟨one.asked && other.asked, one.bare && other.bare⟩
  | .repeated a least _ _ =>
    let edge := a.edge last
    ⟨0 < least && edge.asked, edge.bare⟩
  | .group _ a => a.edge last

/-! ### Putting patterns together -/

def parts : Pattern → List Pattern
  | .empty => []
  | .seq a b => a :: b.parts
  | p => [p]

def branches : Pattern → List Pattern
  | .alt a b => a :: b.branches
  | p => [p]

def ofParts : List Pattern → Pattern
  | [] => .empty
  | [p] => p
  | p :: ps => .seq p (ofParts ps)

def ofBranches : List Pattern → Pattern
  | [] => .set .empty
  | [p] => p
  | p :: ps => .alt p (ofBranches ps)

/-- One character of a set, which is that character itself if there is only one. -/
def ofSet (s : CodeSet) : Pattern :=
  match s.bounds with
  | [first, stop] => if stop = first + 1 then .text [Char.ofNat first] else .set s
  | _ => .set s

def joinTexts : List Pattern → List Pattern
  | [] => []
  | .text s :: ps =>
    match joinTexts ps with
    | .text t :: rest => .text (s ++ t) :: rest
    | rest => .text s :: rest
  | p :: ps => p :: joinTexts ps

/-- A sequence. Sequences within it dissolve, and empty patterns drop out. -/
def sequence (ps : List Pattern) : Pattern := ofParts (joinTexts (ps.flatMap parts))

/-- The set of the characters that all branches are, if each of them is one character. -/
def characters? (ps : List Pattern) : Option CodeSet := do
  let cs ← ps.mapM fun p => match p with
    | .text [c] => some c
    | _ => none
  return .ofList (cs.map Char.toNat)

/-- The union of the sets that all branches are, if each of them is one. -/
def sets? (ps : List Pattern) : Option CodeSet := do
  let sets ← ps.mapM fun p => match p with
    | .set s => some s
    | _ => none
  return .unions sets

def commonStart (ps qs : List Pattern) : List Pattern :=
  ((ps.zip qs).takeWhile fun (p, q) => p = q).map Prod.fst

/-- The parts with which all branches begin, if each of them is a sequence. -/
def sharedStart : List Pattern → List Pattern
  | [] => []
  | p :: ps =>
    let isSequence (q : Pattern) : Bool := match q with
      | .seq _ _ => true
      | _ => false
    if isSequence p && ps.all isSequence then ps.foldl (fun start q => commonStart start q.parts) p.parts
    else []

/-- A choice, where `fuel` bounds how often a common start is taken out. Choices within it dissolve,
characters and sets become one set, and what all branches begin with is taken out. -/
def choiceOf : Nat → List Pattern → Pattern
  | 0, ps => ofBranches ps
  | fuel + 1, ps =>
    let ps := ps.flatMap branches
    match ps, (characters? ps).orElse fun _ => sets? ps with
    | [p], _ => p
    | _, some s => ofSet s
    | _, none =>
      let start := sharedStart ps
      if start.isEmpty then ofBranches ps
      else
        let rests := ps.map fun p => sequence (p.parts.drop start.length)
        sequence (start ++ [choiceOf fuel rests])

def nodes : Pattern → Nat
  | .seq a b | .alt a b => a.nodes + b.nodes + 1
  | .repeated a _ _ _ | .group _ a => a.nodes + 1
  | _ => 1

def choice (ps : List Pattern) : Pattern := choiceOf ((ps.map nodes).foldl (· + ·) 1) ps

/-- A repetition. What only matches the empty text is not worth repeating, no times at all is the
empty pattern, and exactly once is the pattern itself. -/
def repetition (a : Pattern) (least : Nat) (most : Option Nat) (lazy : Bool) : Pattern :=
  let (least, most) :=
    if (a.edge false).bare then (min least 1, some (min (most.getD 1) 1)) else (least, most)
  if least = 0 ∧ most = some 0 then .empty
  else if least = 1 ∧ most = some 1 then a
  else .repeated a least most lazy

end Pattern

end ServiceWatch
