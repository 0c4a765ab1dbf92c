import ServiceWatch.Pattern.Footprint
import ServiceWatch.Pattern.NamedSet
import ServiceWatch.Text.Blank
import ServiceWatch.Text.Decimal
import ServiceWatch.Text.Hexadecimal
import ServiceWatch.Unicode.Letter

/-! Reading search patterns. What is no pattern is refused without a reason. -/
namespace ServiceWatch.Pattern

open ServiceWatch.Text
open ServiceWatch.Unicode (CodeSet)

/-- What flags change about the pattern behind them. -/
structure Flags where
  ignoreCase : Bool := false
  multiLine : Bool := false
  dotAll : Bool := false
  looseLines : Bool := false
  spaced : Bool := false
  ascii : Bool := false
  /-- Repetitions are rather short, and rather long with a question mark. -/
  swapped : Bool := false

/-- The text behind white space and comments, which count only where a flag says so. -/
def skip (flags : Flags) (cs : List Char) : List Char :=
  if flags.spaced then go cs.length cs else cs
where
  /-- Skips white space, and from a number sign to the end of the line. -/
  go : Nat → List Char → List Char
    | 0, cs => cs
    | fuel + 1, cs =>
      match cs with
      | c :: rest =>
        if isBlank c then go fuel rest
        else if c = '#' then go fuel (rest.dropWhile (· ≠ '\n'))
        else cs
      | [] => []

def next? (flags : Flags) : List Char → Option (Char × List Char)
  | [] => none
  | c :: rest => some (c, skip flags rest)

/-- The characters in front of the first one that a test stops at, with what is skipped behind each. -/
def takeUntil (flags : Flags) (stop : Char → Bool) : Nat → List Char → List Char × List Char
  | 0, cs => ([], cs)
  | fuel + 1, cs =>
    match cs with
    | [] => ([], [])
    | c :: rest =>
      if stop c then ([], cs)
      else
        let (taken, rest) := takeUntil flags stop fuel (skip flags rest)
        (c :: taken, rest)

/-- How deep the parts of a pattern may lie within each other. -/
def depthLimit : Nat := 250

/-- The depth of what stands side by side: a single one stands for itself, several form a level. -/
def depthOf : List Nat → Nat
  | [] => 0
  | [d] => d
  | ds => ds.foldl max 0 + 1

inductive Atom where
  /-- A character; the flag tells that it was written as a byte. -/
  | char (c : Char) (byte : Bool)
  | set (s : CodeSet)
  | look (l : Look)

def isMeta (c : Char) : Bool :=
  ['\\', '.', '+', '*', '?', '(', ')', '|', '[', ']', '\x7b', '\x7d', '^', '$', '#', '&', '-', '~'].contains c

def isEscapable (c : Char) : Bool :=
  isMeta c || (c.toNat < 128 && !c.isAlphanum && c ≠ '<' && c ≠ '>')

def charOf? (ds : List Char) : Option Char := do
  if ds.isEmpty then none
  let n ← Hexadecimal.value? ds
  if n < 0xD800 ∨ (0xE000 ≤ n ∧ n < 0x110000) then some (Char.ofNat n) else none

/-- Some characters, with what is skipped behind each. -/
def takeSome (flags : Flags) : Nat → List Char → Option (List Char × List Char)
  | 0, cs => some ([], cs)
  | n + 1, cs => do
    let (c, rest) ← next? flags cs
    let (more, rest) ← takeSome flags n rest
    return (c :: more, rest)

/-- A character by its number: a fixed count of digits, or any count in braces. -/
def readHex (flags : Flags) (count : Nat) (cs : List Char) : Option (Atom × List Char) :=
  match skip flags cs with
  | '\x7b' :: cs =>
    let (ds, rest) := takeUntil flags (· = '\x7d') (cs.length + 1) (skip flags cs)
    match rest with
    | [] => none
    | _ :: rest => (charOf? ds).map fun c => (.char c false, rest)
  | cs => do
    let (ds, rest) ← takeSome flags count cs
    return (.char (← charOf? ds) (count = 2), rest)

def splitOn? (separator : List Char) : List Char → Option (List Char × List Char)
  | [] => none
  | c :: cs =>
    if separator.isPrefixOf (c :: cs) then some ([], (c :: cs).drop separator.length)
    else (splitOn? separator cs).map fun (a, b) => (c :: a, b)

/-- The set that the text in the braces of a property stands for. A value stands behind one of three
separators, which all mean the same. -/
def propertySet? (cs : List Char) : Option CodeSet :=
  match [['!', '='], [':'], ['=']].findSome? fun separator => splitOn? separator cs with
  | some (name, value) => NamedSet.ofNameAndValue? name value
  | none => NamedSet.ofName? cs

/-- A set with everything that differs only in case, where case is ignored. -/
def fold (flags : Flags) (s : CodeSet) : CodeSet :=
  if !flags.ignoreCase then s
  else if flags.ascii then (Unicode.CaseFold.close s).inter (.range 0 127)
  else Unicode.CaseFold.close s

/-- A set, turned around or not, where case was taken into account before. -/
def turned (flags : Flags) (negated : Bool) (s : CodeSet) : CodeSet :=
  if negated then (fold flags s).compl else fold flags s

/-- A property by its one-letter name or by its name in braces. -/
def readProperty (flags : Flags) (negated : Bool) (cs : List Char) : Option (Atom × List Char) := do
  if flags.ascii then none
  let (name, rest) ← match skip flags cs with
    | '\x7b' :: cs =>
      match takeUntil flags (· = '\x7d') (cs.length + 1) (skip flags cs) with
      | (_, []) => none
      | (name, _ :: rest) => some (name, rest)
    | c :: rest => if c = '\\' then none else some ([c], rest)
    | [] => none
  return (.set (turned flags negated (← propertySet? name)), rest)

/-- One of the classes for digits, words and white space; its complement needs more than ASCII. -/
def classAtom (flags : Flags) (negated : Bool) (ascii unicode : CodeSet) (rest : List Char) :
    Option (Atom × List Char) :=
  if flags.ascii then if negated then none else some (.set ascii, rest)
  else some (.set (if negated then unicode.compl else unicode), rest)

/-- A word boundary, which may be told more precisely in braces. -/
def readBoundary (flags : Flags) (cs : List Char) : Option (Atom × List Char) :=
  let isName (c : Char) : Bool := c.isAlpha || c = '-'
  match cs with
  | '\x7b' :: rest =>
    match skip flags rest with
    | [] => none
    | c :: more =>
      if !isName c then some (.look (.wordBoundary flags.ascii), cs)
      else
        match takeUntil flags (fun c => !isName c) (more.length + 1) (c :: more) with
        | (name, '\x7d' :: rest) =>
          match String.ofList name with
          | "start" => some (.look (.wordStart flags.ascii), rest)
          | "end" => some (.look (.wordEnd flags.ascii), rest)
          | "start-half" => some (.look (.wordStartHalf flags.ascii), rest)
          | "end-half" => some (.look (.wordEndHalf flags.ascii), rest)
          | _ => none
        | _ => none
  | _ => some (.look (.wordBoundary flags.ascii), cs)

def readEscape (flags : Flags) : List Char → Option (Atom × List Char)
  | [] => none
  | c :: rest =>
    match c with
    | 'x' => readHex flags 2 rest
    | 'u' => readHex flags 4 rest
    | 'U' => readHex flags 8 rest
    | 'p' => readProperty flags false rest
    | 'P' => readProperty flags true rest
    | 'd' => classAtom flags false NamedSet.asciiDigit NamedSet.digit rest
    | 'D' => classAtom flags true NamedSet.asciiDigit NamedSet.digit rest
    | 's' => classAtom flags false NamedSet.asciiSpace NamedSet.space rest
    | 'S' => classAtom flags true NamedSet.asciiSpace NamedSet.space rest
    | 'w' => classAtom flags false NamedSet.asciiWord NamedSet.word rest
    | 'W' => classAtom flags true NamedSet.asciiWord NamedSet.word rest
    | 'a' => some (.char (Char.ofNat 7) false, rest)
    | 'f' => some (.char (Char.ofNat 12) false, rest)
    | 't' => some (.char '\t' false, rest)
    | 'n' => some (.char '\n' false, rest)
    | 'r' => some (.char '\r' false, rest)
    | 'v' => some (.char (Char.ofNat 11) false, rest)
    | 'A' => some (.look .textStart, rest)
    | 'z' => some (.look .textEnd, rest)
    | 'b' => readBoundary flags rest
    | 'B' => some (.look (.noWordBoundary flags.ascii), rest)
    | '<' => some (.look (.wordStart flags.ascii), rest)
    | '>' => some (.look (.wordEnd flags.ascii), rest)
    | _ => if isEscapable c then some (.char c false, rest) else none

/-- A character as a pattern; a byte above ASCII is none. -/
def charPattern (flags : Flags) (c : Char) (byte : Bool) : Option Pattern :=
  if flags.ascii && byte && 128 ≤ c.toNat then none
  else if flags.ascii && 128 ≤ c.toNat then some (.text [c])
  else some (ofSet (fold flags (.single c)))

/-! ### Brackets -/

/-- A way to combine the two sides within a bracket. -/
inductive SetOperation where
  | inter
  | diff
  | symmetric

def SetOperation.apply : SetOperation → CodeSet → CodeSet → CodeSet
  | .inter => CodeSet.inter
  | .diff => CodeSet.diff
  | .symmetric => CodeSet.symmetric

def readSetItem (flags : Flags) : List Char → Option (Atom × List Char)
  | [] => none
  | '\\' :: rest => readEscape flags rest
  | c :: rest => some (.char c false, rest)

/-- A character in a bracket, which has to be ASCII where only bytes count. -/
def setOfChar (flags : Flags) (c : Char) : Option CodeSet :=
  if flags.ascii && 128 ≤ c.toNat then none else some (.single c)

/-- The next character that is no white space. A number sign ahead of it is passed over, once. -/
def glance (flags : Flags) (cs : List Char) : Option Char :=
  if !flags.spaced then cs.head?
  else
    match cs.dropWhile isBlank with
    | '#' :: rest => (rest.dropWhile isBlank).head?
    | rest => rest.head?

def readSetRange (flags : Flags) (cs : List Char) : Option (CodeSet × List Char) := do
  let (first, rest) ← readSetItem flags cs
  let behind := skip flags rest
  if behind.isEmpty then none
  let isRange :=
    match behind with
    | '-' :: more => !(glance flags more = some ']' || glance flags more = some '-')
    | _ => false
  if isRange then
    let (last, rest) ← readSetItem flags (skip flags (behind.drop 1))
    match first, last with
    | .char a _, .char b _ =>
      if a ≤ b ∧ !(flags.ascii && 128 ≤ b.toNat) then return (.range a.toNat b.toNat, rest) else none
    | _, _ => none
  else
    match first with
    | .char c _ => return (← setOfChar flags c, rest)
    | .set s => return (s, rest)
    | .look _ => none

/-- A named class in brackets and colons, if there is one, and whether it is turned around. -/
def readAsciiClass : List Char → Option ((CodeSet × Bool) × List Char)
  | '[' :: ':' :: cs => do
    let (negated, cs) := match cs with
      | '^' :: rest => (true, rest)
      | _ => (false, cs)
    let name := cs.takeWhile (· ≠ ':')
    match cs.drop name.length with
    | ':' :: ']' :: rest => return ((← NamedSet.ofAsciiName? (String.ofList name), negated), rest)
    | _ => none
  | _ => none

/-- One side in a bracket: its elements together, and the depth of each of them. -/
structure Side where
  set : CodeSet := .empty
  depths : List Nat := []

def Side.add (side : Side) (s : CodeSet) (depth : Nat) : Side := ⟨side.set.union s, depth :: side.depths⟩

/-- A side that is complete: a set, and how deep its parts lie. -/
structure Bracket where
  set : CodeSet
  depth : Nat

/-- The dashes at the start of a bracket, each of which stands for itself. -/
def readDashes (flags : Flags) : Nat → Side → List Char → Side × List Char
  | 0, side, cs => (side, cs)
  | fuel + 1, side, cs =>
    match cs with
    | '-' :: rest => readDashes flags fuel (side.add (.single '-') 0) (skip flags rest)
    | _ => (side, cs)

/-- The opening of a bracket: whether it is turned around, and what stands first in it for itself. -/
def readOpening (flags : Flags) (cs : List Char) : Bool × Side × List Char :=
  let cs := skip flags cs
  let (negated, cs) := match cs with
    | '^' :: rest => (true, skip flags rest)
    | _ => (false, cs)
  match cs with
  | ']' :: rest => (negated, Side.add {} (.single ']') 0, rest)
  | _ => (negated, readDashes flags cs.length {} cs)

/-- The sides of a bracket up to the one that is done now: what was combined before joins in. -/
def finish (flags : Flags) (pending : Option (SetOperation × Bracket)) (side : Side) : Bracket :=
  match pending with
  | none => ⟨side.set, depthOf side.depths⟩
  | some (operation, left) =>
    ⟨operation.apply (fold flags left.set) (fold flags side.set), max left.depth (depthOf side.depths) + 1⟩

mutual

/-- A bracket behind its opening sign, with room for some levels. -/
def readSet (flags : Flags) : Nat → Nat → List Char → Option (Bracket × List Char)
  | 0, _, _ => none
  | _, 0, _ => none
  | fuel + 1, room + 1, cs => do
    let (negated, first, cs) := readOpening flags cs
    if negated && flags.ascii then none
    let (bracket, rest) ← readSetBody flags fuel room none first cs
    return (⟨turned flags negated bracket.set, bracket.depth + 1⟩, rest)

def readSetBody (flags : Flags) : Nat → Nat → Option (SetOperation × Bracket) → Side → List Char →
    Option (Bracket × List Char)
  | 0, _, _, _, _ => none
  | fuel + 1, room, pending, side, cs =>
    let operate (operation : SetOperation) (rest : List Char) :=
      readSetBody flags fuel room (some (operation, finish flags pending side)) {} rest
    match skip flags cs with
    | [] => none
    | ']' :: rest => some (finish flags pending side, rest)
    | '&' :: '&' :: rest => operate .inter rest
    | '-' :: '-' :: rest => operate .diff rest
    | '~' :: '~' :: rest => operate .symmetric rest
    | '[' :: rest =>
      match readAsciiClass ('[' :: rest) with
      | some ((s, negated), rest) =>
        if negated && flags.ascii then none
        else readSetBody flags fuel room pending (side.add (turned flags negated s) 0) rest
      | none => do
        let (inner, rest) ← readSet flags fuel room rest
        readSetBody flags fuel room pending (side.add inner.set inner.depth) rest
    | cs => do
      let (element, rest) ← readSetRange flags cs
      readSetBody flags fuel room pending (side.add element 0) rest

end

/-! ### Repetition -/

def readCount (flags : Flags) (cs : List Char) : Option (Option Nat × List Char) :=
  let cs := trimLeft cs
  let (ds, rest) := takeUntil flags (fun c => !c.isDigit) (cs.length + 1) cs
  let rest := trimCount rest.length rest
  if ds.isEmpty then some (none, rest)
  else
    let n := Decimal.value ds
    if n < UInt32.size then some (some n, rest) else none
where
  /-- The text behind white space and what is skipped between it. -/
  trimCount : Nat → List Char → List Char
    | 0, cs => cs
    | fuel + 1, cs =>
      match cs with
      | c :: rest => if isBlank c then trimCount fuel (skip flags rest) else cs
      | [] => []

def readBounds (flags : Flags) (cs : List Char) : Option ((Nat × Option Nat) × List Char) := do
  let (least, cs) ← readCount flags (skip flags cs)
  let least ← least
  match cs with
  | '\x7d' :: rest => return ((least, some least), rest)
  | ',' :: cs =>
    match skip flags cs with
    | '\x7d' :: rest => return ((least, none), rest)
    | cs =>
      let (most, cs) ← readCount flags cs
      let most ← most
      match cs with
      | '\x7d' :: rest => if least ≤ most then return ((least, some most), rest) else none
      | _ => none
  | _ => none

def readLazy : List Char → Bool × List Char
  | '?' :: rest => (true, rest)
  | cs => (false, cs)

/-! ### Groups -/

def isNameStart (c : Char) : Bool := c = '_' || Unicode.isLetter c

/-- The other characters of a group's name may also be digits, points and brackets. -/
def isNamePart (c : Char) : Bool :=
  isNameStart c || c = '.' || c = '[' || c = ']' || Unicode.isNumeral c

def readName (names : List String) (cs : List Char) : Option (String × List Char) := do
  let name := cs.takeWhile (· ≠ '>')
  match name, cs.drop name.length with
  | c :: more, _ :: rest =>
    let s := String.ofList name
    if isNameStart c && more.all isNamePart && !names.contains s then some (s, rest) else none
  | _, _ => none

def Flags.set (flags : Flags) (on : Bool) : Char → Option Flags
  | 'i' => some { flags with ignoreCase := on }
  | 'm' => some { flags with multiLine := on }
  | 's' => some { flags with dotAll := on }
  | 'R' => some { flags with looseLines := on }
  | 'x' => some { flags with spaced := on }
  | 'u' => some { flags with ascii := !on }
  | 'U' => some { flags with swapped := on }
  | _ => none

/-- Flags up to a colon or a closing parenthesis; none may come twice, and a dash needs one behind it. -/
def readFlags (flags : Flags) : Nat → List Char → Bool → List Char → Option (Flags × List Char)
  | 0, _, _, _ => none
  | fuel + 1, seen, on, cs =>
    match cs with
    | [] => none
    | c :: rest =>
      if c = ':' ∨ c = ')' then
        if seen.head? = some '-' then none else some (flags, c :: rest)
      else if c = '-' then if on then readFlags flags fuel ('-' :: seen) false rest else none
      else if seen.contains c then none
      else do
        let flags ← flags.set on c
        readFlags flags fuel (c :: seen) on rest

/-- The groups that were opened so far: how many are remembered, and the names of some of them. -/
structure Groups where
  count : Nat := 0
  names : List String := []

def Groups.add (groups : Groups) (name : Option String) : Groups :=
  ⟨groups.count + 1, name.toList ++ groups.names⟩

inductive Opening where
  /-- A group begins, with flags of its own; it is remembered or not. -/
  | group (flags : Flags) (groups : Groups) (number : Option Nat)
  /-- Flags change for the rest of the group around. -/
  | change (flags : Flags)

def Opening.remembered (flags : Flags) (groups : Groups) (name : Option String) : Opening :=
  let groups := groups.add name
  .group flags groups (some groups.count)

def readGroup (flags : Flags) (groups : Groups) (cs : List Char) : Option (Opening × List Char) :=
  match skip flags cs with
  | '?' :: '=' :: _ => none
  | '?' :: '!' :: _ => none
  | '?' :: '<' :: '=' :: _ => none
  | '?' :: '<' :: '!' :: _ => none
  | '?' :: 'P' :: '<' :: rest =>
    (readName groups.names rest).map fun (n, rest) => (.remembered flags groups (some n), rest)
  | '?' :: '<' :: rest =>
    (readName groups.names rest).map fun (n, rest) => (.remembered flags groups (some n), rest)
  | '?' :: rest => do
    let (changed, more) ← readFlags flags (rest.length + 1) [] true rest
    match more with
    | ':' :: more => return (.group changed groups none, more)
    | _ :: more => if rest.head? = some ')' then none else return (.change changed, more)
    | [] => none
  | cs => some (.remembered flags groups none, cs)

/-- A part of a pattern, and how deep its own parts lie. -/
structure Part where
  pattern : Pattern
  depth : Nat := 0

def Part.inSequence (parts : List Part) : Part :=
  ⟨sequence (parts.map (·.pattern)), depthOf (parts.map (·.depth))⟩

def Part.inChoice : List Part → Part
  | [part] => part
  | parts => ⟨choice (parts.map (·.pattern)), depthOf (parts.map (·.depth))⟩

def Part.grouped (part : Part) (number : Option Nat) : Part :=
  match number with
  | some number => ⟨.group number part.pattern, part.depth + 1⟩
  | none => { part with depth := part.depth + 1 }

/-- What was read of a group: the branches that are complete, and the sequence that is being read. Both
begin with the last one. -/
structure Progress where
  flags : Flags := {}
  groups : Groups := {}
  branches : List Part := []
  parts : List Part := []
  /-- The last part of the sequence can be repeated. -/
  repeatable : Bool := false

def Progress.push (p : Progress) (part : Part) : Progress :=
  { p with parts := part :: p.parts, repeatable := true }

def Progress.next (p : Progress) : Progress :=
  { p with branches := .inSequence p.parts.reverse :: p.branches, parts := [], repeatable := false }

def Progress.change (p : Progress) (flags : Flags) : Progress :=
  { p with flags, parts := ⟨.empty, 0⟩ :: p.parts, repeatable := false }

def Progress.part (p : Progress) : Part := .inChoice p.next.branches.reverse

def Progress.repeated (p : Progress) (least : Nat) (most : Option Nat) (marked : Bool) : Option Progress :=
  match p.repeatable, p.parts with
  | true, a :: rest =>
    let again : Part := ⟨repetition a.pattern least most (marked != p.flags.swapped), a.depth + 1⟩
    some { p with parts := again :: rest }
  | _, _ => none

/-- The point, which leaves out line ends unless a flag says otherwise. -/
def dot (flags : Flags) : Option Pattern :=
  if flags.ascii then none
  else if flags.dotAll then some (ofSet .characters)
  else if flags.looseLines then some (ofSet (CodeSet.compl (.union (.single '\n') (.single '\r'))))
  else some (ofSet (CodeSet.single '\n').compl)

def caret (flags : Flags) : Look :=
  if flags.multiLine then if flags.looseLines then .looseLineStart else .lineStart else .textStart

def dollar (flags : Flags) : Look :=
  if flags.multiLine then if flags.looseLines then .looseLineEnd else .lineEnd else .textEnd

def Atom.pattern (flags : Flags) : Atom → Option Pattern
  | .char c byte => charPattern flags c byte
  | .set s => some (ofSet s)
  | .look l => some (.look l)

/-- Reads a group up to its closing parenthesis or the end of the text, with room for some groups
within each other. -/
def readBody : Nat → Nat → Progress → List Char → Option (Progress × List Char)
  | 0, _, _, _ => none
  | fuel + 1, room, p, cs =>
    match skip p.flags cs with
    | [] => some (p, [])
    | ')' :: rest => some (p, ')' :: rest)
    | '|' :: rest => readBody fuel room p.next rest
    | '(' :: rest => do
      match ← readGroup p.flags p.groups rest with
      | (.change flags, rest) => readBody fuel room (p.change flags) rest
      | (.group flags groups number, rest) =>
        if room = 0 then none
        let (inner, rest) ← readBody fuel (room - 1) { flags, groups } rest
        match rest with
        | ')' :: rest =>
          readBody fuel room { (p.push (inner.part.grouped number)) with groups := inner.groups } rest
        | _ => none
    | '[' :: rest => do
      let (s, rest) ← readSet p.flags (2 * rest.length + 2) depthLimit rest
      readBody fuel room (p.push ⟨ofSet s.set, s.depth⟩) rest
    | '*' :: rest => do
      let (marked, rest) := readLazy rest
      readBody fuel room (← p.repeated 0 none marked) rest
    | '+' :: rest => do
      let (marked, rest) := readLazy rest
      readBody fuel room (← p.repeated 1 none marked) rest
    | '?' :: rest => do
      let (marked, rest) := readLazy rest
      readBody fuel room (← p.repeated 0 (some 1) marked) rest
    | '\x7b' :: rest => do
      let ((least, most), rest) ← readBounds p.flags rest
      let (marked, rest) := readLazy (skip p.flags rest)
      readBody fuel room (← p.repeated least most marked) rest
    | '.' :: rest => do readBody fuel room (p.push ⟨← dot p.flags, 0⟩) rest
    | '^' :: rest => readBody fuel room (p.push ⟨.look (caret p.flags), 0⟩) rest
    | '$' :: rest => readBody fuel room (p.push ⟨.look (dollar p.flags), 0⟩) rest
    | '\\' :: rest => do
      let (atom, rest) ← readEscape p.flags rest
      readBody fuel room (p.push ⟨← atom.pattern p.flags, 0⟩) rest
    | c :: rest => do readBody fuel room (p.push ⟨← charPattern p.flags c false, 0⟩) rest

def read (cs : List Char) : Option Pattern := do
  let (p, rest) ← readBody (cs.length + 1) depthLimit {} cs
  if !rest.isEmpty then none
  let part := p.part
  if part.depth ≤ depthLimit && part.pattern.fits then some part.pattern else none

end ServiceWatch.Pattern
