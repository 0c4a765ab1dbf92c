import ServiceWatch.Json.Basic
import ServiceWatch.Json.Escape

/-! Reading JSON text into a value that ends where the text stops being JSON. -/
namespace ServiceWatch.Json

/-- The four characters that may stand between tokens. -/
def isBlank (c : Char) : Bool := c = ' ' || c = '\t' || c = '\n' || c = '\r'

def skipBlanks (cs : List Char) : List Char := cs.dropWhile isBlank

namespace NumberText

def spanDigits (cs : List Char) : List Char × List Char := cs.span Char.isDigit

/-- The whole digits: a single zero, or digits that do not start with one. -/
def readWhole (cs : List Char) : Option (List Char × List Char) :=
  match spanDigits cs with
  | ([], _) => none
  | ('0' :: _ :: _, _) => none
  | (ds, rest) => some (ds, rest)

/-- A fraction is a point and at least one digit. -/
def readFraction : List Char → Option (Option (List Char) × List Char)
  | '.' :: cs =>
    match spanDigits cs with
    | ([], _) => none
    | (ds, rest) => some (some ds, rest)
  | cs => some (none, cs)

def readExponentSign : List Char → Bool × List Char
  | '+' :: cs => (false, cs)
  | '-' :: cs => (true, cs)
  | cs => (false, cs)

def readExponentDigits (cs : List Char) : Option (Option (Bool × List Char) × List Char) :=
  let (negative, cs) := readExponentSign cs
  match spanDigits cs with
  | ([], _) => none
  | (ds, rest) => some (some (negative, ds), rest)

/-- An exponent is `e` or `E`, a sign if wanted, and at least one digit. -/
def readExponent : List Char → Option (Option (Bool × List Char) × List Char)
  | 'e' :: cs => readExponentDigits cs
  | 'E' :: cs => readExponentDigits cs
  | cs => some (none, cs)

def readUnsigned (negative : Bool) (cs : List Char) : Option (NumberText × List Char) := do
  let (whole, cs) ← readWhole cs
  let (fraction, cs) ← readFraction cs
  let (exponent, cs) ← readExponent cs
  return (⟨negative, whole, fraction, exponent⟩, cs)

def read : List Char → Option (NumberText × List Char)
  | '-' :: cs => readUnsigned true cs
  | cs => readUnsigned false cs

end NumberText

/-- A value made of one token, and what follows it. -/
def readScalar : List Char → Json × List Char
  | 'n' :: 'u' :: 'l' :: 'l' :: rest => (.null, rest)
  | 't' :: 'r' :: 'u' :: 'e' :: rest => (.bool true, rest)
  | 'f' :: 'a' :: 'l' :: 's' :: 'e' :: rest => (.bool false, rest)
  | '"' :: cs =>
    match Escape.scan cs with
    | some (raw, rest) => (.string raw, rest)
    | none => (.broken, [])
  | cs =>
    match NumberText.read cs with
    | some (literal, rest) => (.number literal, rest)
    | none => (.broken, [])

mutual

/-- Reads one value; behind a fault nothing is left to read. -/
def readValue : Nat → List Char → Json × List Char
  | 0, _ => (.broken, [])
  | fuel + 1, cs =>
    match skipBlanks cs with
    | '[' :: cs =>
      match skipBlanks cs with
      | ']' :: rest => (.array [], rest)
      | cs =>
        let (items, rest) := readItems fuel cs
        (.array items, rest)
    | '{' :: cs =>
      match skipBlanks cs with
      | '}' :: rest => (.object [], rest)
      | cs =>
        let (members, rest) := readMembers fuel cs
        (.object members, rest)
    | cs => readScalar cs

def readItems : Nat → List Char → List Json × List Char
  | 0, _ => ([.broken], [])
  | fuel + 1, cs =>
    let (item, cs) := readValue fuel cs
    match skipBlanks cs with
    | ']' :: rest => ([item], rest)
    | ',' :: cs =>
      let (items, rest) := readItems fuel cs
      (item :: items, rest)
    | _ => ([item, .broken], [])

def readMembers : Nat → List Char → List (Json × Json) × List Char
  | 0, _ => ([(.broken, .broken)], [])
  | fuel + 1, cs =>
    let (key, cs) := readValue fuel cs
    match skipBlanks cs with
    | ':' :: cs =>
      let (value, cs) := readValue fuel cs
      match skipBlanks cs with
      | '}' :: rest => ([(key, value)], rest)
      | ',' :: cs =>
        let (members, rest) := readMembers fuel cs
        ((key, value) :: members, rest)
      | _ => ([(key, value), (.broken, .broken)], [])
    | _ => ([(key, .broken)], [])

end

/-- A whole text: its value, and whether nothing but blanks follows it. -/
structure Document where
  value : Json
  complete : Bool

/-- Reads a whole text. Each step uses up a character or is followed by one that does. -/
def Document.read (cs : List Char) : Document :=
  let (value, rest) := readValue (2 * cs.length + 2) cs
  ⟨value, (skipBlanks rest).isEmpty⟩

end ServiceWatch.Json
