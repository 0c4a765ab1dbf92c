import ServiceWatch.Pattern.Basic
import ServiceWatch.Pattern.NamedSet

/-! Whether a text contains a match of a pattern. -/
namespace ServiceWatch.Pattern

def isWord (ascii : Bool) : Option Char → Bool
  | none => false
  | some c => (if ascii then NamedSet.asciiWord else NamedSet.word).contains c.toNat

/-- A place between two characters is one that a pattern asks for. -/
def Look.holds (before after : Option Char) : Look → Bool
  | .textStart => before.isNone
  | .textEnd => after.isNone
  | .lineStart => before.isNone || before = some '\n'
  | .lineEnd => after.isNone || after = some '\n'
  | .looseLineStart =>
    before.isNone || before = some '\n' || (before = some '\r' && after ≠ some '\n')
  | .looseLineEnd =>
    after.isNone || after = some '\r' || (after = some '\n' && before ≠ some '\r')
  | .wordBoundary ascii => isWord ascii before != isWord ascii after
  | .noWordBoundary ascii => isWord ascii before == isWord ascii after
  | .wordStart ascii => !isWord ascii before && isWord ascii after
  | .wordEnd ascii => isWord ascii before && !isWord ascii after
  | .wordStartHalf ascii => !isWord ascii before
  | .wordEndHalf ascii => !isWord ascii after

/-- Adds the positions of a list that are not in another one. -/
def join (a b : List Nat) : List Nat := b.foldl (fun acc p => if acc.contains p then acc else p :: acc) a

/-- Applies a step some number of times, as long as a position is left. -/
def times (f : List Nat → List Nat) : Nat → List Nat → List Nat
  | 0, ps => ps
  | n + 1, ps => if ps.isEmpty then ps else times f n (f ps)

/-- All positions that some number of steps reach; a round that adds none is the last one. -/
def upTo (f : List Nat → List Nat) : Nat → List Nat → List Nat → List Nat
  | 0, acc, _ => acc
  | n + 1, acc, fresh =>
    let next := (f fresh).filter fun p => !acc.contains p
    if next.isEmpty then acc else upTo f n (join acc next) next

/-- The position behind some characters that stand at a position of a text. -/
def behind? (text : Array Char) : List Char → Nat → Option Nat
  | [], p => some p
  | c :: cs, p => if text[p]? = some c then behind? text cs (p + 1) else none

/-- The positions in a text at which a match can end that starts at one of the given positions. -/
def reach (text : Array Char) : Pattern → List Nat → List Nat
  | .empty, ps => ps
  | .text cs, ps => ps.filterMap (behind? text cs)
  | .set s, ps =>
    ps.filterMap fun p =>
      match text[p]? with
      | some c => if s.contains c.toNat then some (p + 1) else none
      | none => none
  | .look l, ps =>
    ps.filter fun p => l.holds (if p = 0 then none else text[p - 1]?) text[p]?
  | .seq a b, ps => reach text b (reach text a ps)
  | .alt a b, ps => join (reach text a ps) (reach text b ps)
  | .repeated a least most _, ps =>
    let start := times (reach text a) least ps
    let rounds := match most with
      | none => text.size + 1
      | some most => min (most - least) (text.size + 1)
    upTo (reach text a) rounds start start
  | .group _ a, ps => reach text a ps

def isMatch (p : Pattern) (text : String) : Bool :=
  let cs := text.toList.toArray
  !(p.reach cs (List.range (cs.size + 1))).isEmpty

end ServiceWatch.Pattern
