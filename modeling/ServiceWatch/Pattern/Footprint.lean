import ServiceWatch.Pattern.Basic
import ServiceWatch.Unicode.ByteRange

/-!
The memory that the automata of a pattern take, one that reads a text forwards and one that reads it
backwards. A state takes 32 bytes, and so many more for its links: 4 for a link of a choice between
states, 8 for a link that reads a byte. A repetition is written out, and the states for the bytes of a
set are shared as far as a small memory of the states built before allows.
-/
namespace ServiceWatch.Pattern

open Unicode (CodeSet ByteRange)

/-- How many states were built, and how many bytes their links take. The states are numbered from 0. -/
structure Footprint where
  states : Nat
  links : Nat

namespace Footprint

def bytes (f : Footprint) : Nat := 32 * f.states + f.links

def limit : Nat := 10 * 1048576

/-- The footprint, unless it is too large. -/
def checked (f : Footprint) : Option Footprint := if f.bytes ≤ limit then some f else none

def state (links : Nat) (f : Footprint) : Option Footprint :=
  checked { states := f.states + 1, links := f.links + links }

def lead (count : Nat) (f : Footprint) : Option Footprint := checked { f with links := f.links + 4 * count }

/-- Leads from the end of a part to what follows, which takes a link if the part ends in a choice. -/
def follow (endsInChoice : Bool) (f : Footprint) : Option Footprint :=
  if endsInChoice then f.lead 1 else some f

end Footprint

open Footprint

/-- A way to build a part of an automaton, which tells whether the part ends in a choice. -/
abbrev Build := Footprint → Option (Footprint × Bool)

def stir (hash value : UInt64) : UInt64 := (hash ^^^ value) * 1099511628211

def unstirred : UInt64 := 14695981039346656037

/-! ### The states for the bytes of a set, forwards -/

/-- A link that reads a byte of a range and leads to a state. -/
structure ByteLink where
  range : ByteRange
  target : Nat
  deriving DecidableEq

/-- A state that is not yet built: its links so far, and the range of one that still lacks its target. -/
structure OpenState where
  links : List ByteLink
  pending : Option ByteRange

/-- States that were built, each under a slot that depends on its links. A later one takes the slot over. -/
structure Shared where
  slots : Array (Option (List ByteLink × Nat))
  footprint : Footprint

def slotOf (slots : Nat) (links : List ByteLink) : Nat :=
  let hash := links.foldl (fun h l =>
    stir (stir (stir h l.range.first.toUInt64) l.range.last.toUInt64) (.ofNat l.target)) unstirred
  (hash % .ofNat slots).toNat

/-- The number of a state with the given links, which is built unless it is found. -/
def Shared.state (links : List ByteLink) (s : Shared) : Option (Shared × Nat) :=
  let slot := slotOf s.slots.size links
  let found := match s.slots[slot]? with
    | some (some (known, number)) => if known = links then some number else none
    | _ => none
  match found with
  | some number => some (s, number)
  | none =>
    (s.footprint.state (8 * links.length)).map fun footprint =>
      ({ slots := s.slots.set! slot (some (links, s.footprint.states)), footprint }, s.footprint.states)

/-- Builds all states behind the first one of a row, the last one first, and closes the first one's
pending link. The last link of all leads to `goal`. -/
def closeStates (goal : Nat) : List OpenState → Shared → Option (Shared × List ByteLink)
  | [], s => some (s, [])
  | first :: rest, s => do
    let (s, target) ← match rest with
      | [] => some (s, goal)
      | _ => do
        let (s, links) ← closeStates goal rest s
        s.state links
    match first.pending with
    | some range => return (s, first.links ++ [⟨range, target⟩])
    | none => return (s, first.links)

/-- Adds a row of byte ranges to the open states of the row before it. What both rows begin with stays
open, and the rest of the row before is built. -/
def addRow (goal : Nat) : List OpenState → List ByteRange → Shared → Option (Shared × List OpenState)
  | first :: rest, range :: ranges, s =>
    if first.pending = some range then
      (addRow goal rest ranges s).map fun (s, opened) => (s, first :: opened)
    else
      (closeStates goal (first :: rest) s).map fun (s, links) =>
        (s, ⟨links, some range⟩ :: ranges.map fun r => ⟨[], some r⟩)
  | _, ranges, s => some (s, ranges.map fun r => ⟨[], some r⟩)

def addRows (goal : Nat) : List (List ByteRange) → List OpenState → Shared → Option (Shared × List OpenState)
  | [], opened, s => some (s, opened)
  | row :: rows, opened, s => do
    let (s, opened) ← addRow goal opened row s
    addRows goal rows opened s

def buildRows (rows : List (List ByteRange)) : Build := fun f => do
  let goal := f.states
  let f ← f.state 0
  let (s, opened) ← addRows goal rows [⟨[], none⟩] ⟨Array.replicate 10000 none, f⟩
  let (s, links) ← closeStates goal opened s
  let (s, _) ← s.state links
  return (s.footprint, false)

/-! ### The states for the bytes of a set, backwards -/

/-- States that read one byte, each under a slot that depends on the byte and on the state it leads to. -/
structure SharedBytes where
  slots : Array (Option (ByteLink × Nat))
  footprint : Footprint

def slotOfByte (slots : Nat) (link : ByteLink) : Nat :=
  let hash := stir (stir (stir unstirred (.ofNat link.target)) link.range.first.toUInt64)
    link.range.last.toUInt64
  (hash % .ofNat slots).toNat

/-- The number of a state with one link, which is built unless it is found. -/
def SharedBytes.state (link : ByteLink) (s : SharedBytes) : Option (SharedBytes × Nat) :=
  let slot := slotOfByte s.slots.size link
  let found := match s.slots[slot]? with
    | some (some (known, number)) => if known = link then some number else none
    | _ => none
  match found with
  | some number => some (s, number)
  | none =>
    (s.footprint.state 0).map fun footprint =>
      ({ slots := s.slots.set! slot (some (link, s.footprint.states)), footprint }, s.footprint.states)

/-- Adds a row of byte ranges, each of which leads to the one before it. -/
def addBytes : List ByteRange → Nat → SharedBytes → Option SharedBytes
  | [], _, s => some s
  | range :: ranges, target, s => do
    let (s, number) ← s.state ⟨range, target⟩
    addBytes ranges number s

def addRowsBack (goal : Nat) : List (List ByteRange) → SharedBytes → Option SharedBytes
  | [], s => some s
  | row :: rows, s => do
    let s ← addBytes row goal s
    let footprint ← s.footprint.lead 1
    addRowsBack goal rows { s with footprint }

def buildRowsBack (rows : List (List ByteRange)) : Build := fun f => do
  let f ← f.state 0
  let goal := f.states
  let f ← f.state 0
  let s ← addRowsBack goal rows ⟨Array.replicate 1000 none, f⟩
  return (s.footprint, false)

/-! ### The states of other parts -/

def buildState : Build := fun f => (f.state 0).map fun f => (f, false)

def buildBytes : List UInt8 → Build
  | [], f => some (f, false)
  | _ :: bytes, f => do buildBytes bytes (← f.state 0)

def buildRange (ranges : Nat) : Build := fun f => do
  let f ← f.state 0
  return (← f.state (8 * ranges), false)

/-- Builds the states that read a character of a set. One state does for ASCII. -/
def buildSet (backwards : Bool) (s : CodeSet) : Build :=
  if s.ranges.all fun range => range.2 < 128 then buildRange s.ranges.length
  else
    let rows := ByteRange.rows s
    if backwards then buildRowsBack rows else buildRows rows

def buildMore (body : Build) : Nat → Bool → Build
  | 0, endsInChoice, f => some (f, endsInChoice)
  | n + 1, endsInChoice, f => do
    let (f, next) ← body f
    buildMore body n next (← f.follow endsInChoice)

def buildCopies (body : Build) : Nat → Build
  | 0, f => buildState f
  | n + 1, f => do
    let (f, endsInChoice) ← body f
    buildMore body n endsInChoice f

/-- Builds copies of a part each of which may be the last one. -/
def buildOptional (body : Build) : Nat → Bool → Build
  | 0, endsInChoice, f => do return (← f.follow endsInChoice, false)
  | n + 1, endsInChoice, f => do
    let f ← f.state 0
    let (f, next) ← body f
    let f ← f.follow endsInChoice
    buildOptional body n next (← f.lead 2)

/-- Builds a part any number of times. A part that can match nothing needs two choices, so that the
one for another round is not met before the one for a first round. -/
def buildStar (takesBytes : Bool) (body : Build) : Build := fun f => do
  if takesBytes then
    let f ← f.state 0
    let (f, endsInChoice) ← body f
    let f ← f.lead 1
    return (← f.follow endsInChoice, true)
  else
    let (f, endsInChoice) ← body f
    let f ← f.state 0
    let f ← f.follow endsInChoice
    let f ← f.lead 1
    let f ← f.state 0
    let f ← f.state 0
    return (← f.lead 3, false)

def buildRepeated (takesBytes : Bool) (body : Build) (least : Nat) : Option Nat → Build
  | some most => fun f =>
    if least = most then buildCopies body least f
    else if least = 0 ∧ most = 1 then do
      let f ← f.state 0
      let (f, endsInChoice) ← body f
      let f ← f.state 0
      let f ← f.lead 2
      return (← f.follow endsInChoice, false)
    else do
      let (f, endsInChoice) ← buildCopies body least f
      let f ← f.state 0
      buildOptional body (most - least) endsInChoice f
  | none => fun f =>
    match least with
    | 0 => buildStar takesBytes body f
    | more + 1 => do
      let (f, before) ← if more = 0 then some (f, false) else buildCopies body more f
      let (f, endsInChoice) ← body f
      let f ← f.state 0
      let f ← f.follow before
      let f ← f.follow endsInChoice
      return (← f.lead 1, true)

/-! ### A choice between words -/

/-- Splits words at the empty ones. Empty words before all others count as one: the flags tell whether
another word and an empty one came before. -/
def splitWords : Bool → Bool → List (List UInt8) → List (List (List UInt8))
  | _, _, [] => [[]]
  | other, ended, [] :: words =>
    if ended && !other then splitWords other ended words else [] :: splitWords other true words
  | _, ended, word :: words =>
    match splitWords true ended words with
    | first :: rest => (word :: first) :: rest
    | [] => [[word]]

/-- The first bytes of some words, each with what follows it in those words. -/
def byFirst : List (List UInt8) → List (UInt8 × List (List UInt8))
  | [] => []
  | [] :: words => byFirst words
  | (b :: word) :: words =>
    let groups := byFirst words
    match groups.find? fun group => group.1 = b with
    | some (_, tails) => (b, word :: tails) :: groups.filter fun group => group.1 ≠ b
    | none => (b, [word]) :: groups

/-- Builds a tree that reads one of some words, down to a depth. Words that are read to their end need
no states. -/
def buildTree : Nat → List (List UInt8) → Footprint → Option Footprint
  | 0, _, f => some f
  | depth + 1, words, f =>
    if words.all List.isEmpty then some f
    else do
      let stretches := splitWords false false words
      let f ← stretches.foldlM (fun f stretch =>
        match byFirst stretch with
        | [] => some f
        | groups => do
          let f ← groups.foldlM (fun f group => buildTree depth group.2 f) f
          f.state (if groups.length = 1 then 0 else 8 * groups.length)) f
      let filled := (stretches.filter fun stretch => !stretch.isEmpty).length
      f.state (4 * (filled + (stretches.length - 1)))

def buildWords (words : List (List UInt8)) : Build := fun f => do
  let depth := (words.map List.length).foldl max 0
  return (← buildTree (depth + 1) words (← f.state 0), false)

/-- The bytes of each branch, if all of them are texts. -/
def words? (ps : List Pattern) : Option (List (List UInt8)) :=
  ps.mapM fun p => match p with
    | .text cs => some (cs.flatMap String.utf8EncodeChar)
    | _ => none

/-! ### All parts -/

def buildBoth (first second : Build) : Build := fun f => do
  let (f, endsInChoice) ← first f
  let (f, last) ← second f
  return (← f.follow endsInChoice, last)

/-- Builds a part between two states that remember where it starts and ends. -/
def buildGroup (body : Build) : Build := fun f => do
  let f ← f.state 0
  let (f, endsInChoice) ← body f
  let f ← f.state 0
  return (← f.follow endsInChoice, false)

def buildChoice : List Build → Build
  | [], f => buildState f
  | [part], f => part f
  | first :: second :: others, f => do
    let (f, firstEnd) ← first f
    let (f, secondEnd) ← second f
    let f ← f.state 0
    let f ← f.state 0
    let f ← f.lead 2
    let f ← f.follow firstEnd
    let f ← f.follow secondEnd
    let f ← others.foldlM (fun f part => do
      let (f, endsInChoice) ← part f
      (← f.lead 1).follow endsInChoice) f
    return (f, false)

/-- How to build a pattern, and how to build each of the branches that it is a choice between. -/
structure Plan where
  whole : Build
  branches : List Build

def Plan.single (build : Build) : Plan := ⟨build, [build]⟩

/-- How to build a pattern. Backwards, nothing is remembered. -/
def plan (backwards : Bool) : Pattern → Plan
  | .empty => .single buildState
  | .text cs => .single (buildBytes (cs.flatMap String.utf8EncodeChar))
  | .set s => .single (buildSet backwards s)
  | .look _ => .single buildState
  | .seq a b =>
    let first := (plan backwards a).whole
    let rest := (plan backwards b).whole
    .single (if backwards then buildBoth rest first else buildBoth first rest)
  | .alt a b =>
    let branches := (plan backwards a).whole :: (plan backwards b).branches
    let whole := fun f =>
      match words? (a :: b.branches) with
      | some words => buildWords (if backwards then words.map List.reverse else words) f
      | none => buildChoice branches f
    ⟨whole, branches⟩
  | .repeated a least most _ =>
    .single (buildRepeated ((a.minLength?.getD 0) ≠ 0) (plan backwards a).whole least most)
  | .group _ a =>
    let body := (plan backwards a).whole
    .single (if backwards then body else buildGroup body)

/-- The footprint of the automaton of a pattern, if it is not too large. Unless a match has to begin
where the automaton begins to read, it may skip any bytes before. -/
def footprint? (backwards : Bool) (p : Pattern) : Option Footprint := do
  let start : Footprint := ⟨0, 0⟩
  let (f, skips) ← if (p.edge backwards).asked then buildState start else buildStar true (buildRange 1) start
  let body := (plan backwards p).whole
  let (f, endsInChoice) ← if backwards then body f else buildGroup body f
  let f ← f.state 0
  let f ← f.follow endsInChoice
  f.follow skips

/-- The pattern is a choice between so many words that it is searched for as a list of words. -/
def isWordList (p : Pattern) : Bool :=
  match words? p.branches with
  | some words => 3000 ≤ words.length
  | none => false

/-- Both automata of a pattern are small enough. A long list of words needs none. -/
def fits (p : Pattern) : Bool :=
  p.isWordList || ((p.footprint? false).isSome && (p.footprint? true).isSome)

end ServiceWatch.Pattern
