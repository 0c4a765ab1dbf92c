import ServiceWatch.Text.Blank
import ServiceWatch.Time.Timestamp

/-!
Reading points in time. The form is date, `T`, time and offset; white space is allowed before
every number, dash, colon and the offset, and behind the whole.
-/
namespace ServiceWatch.Timestamp

open ServiceWatch.Text

inductive Fault where
  | invalid
  | tooShort
  | tooLong
  | outOfRange
  | impossible
  deriving DecidableEq

def Fault.message : Fault → String
  | .invalid => "input contains invalid characters"
  | .tooShort => "premature end of input"
  | .tooLong => "trailing input"
  | .outOfRange => "input is out of range"
  | .impossible => "no possible date and time matching input"

/-- The largest number that is read before its range is looked at. -/
def numberLimit : Nat := 0x7FFFFFFFFFFFFFFF

/-- Splits off at most `width` digits, or any number of them if there is no width. -/
def takeDigits : Option Nat → List Char → List Char × List Char
  | none, cs => cs.span Char.isDigit
  | some width, cs =>
    let ds := (cs.take width).takeWhile Char.isDigit
    (ds, cs.drop ds.length)

def readNumber (width : Option Nat) (cs : List Char) : Except Fault (Nat × List Char) :=
  match takeDigits width cs with
  | ([], []) => .error .tooShort
  | ([], _ :: _) => .error .invalid
  | (ds, rest) =>
    let n := Decimal.value ds
    if n ≤ numberLimit then .ok (n, rest) else .error .outOfRange

/-- Reads a year: up to four digits, or a sign and any number of digits. -/
def readYear (cs : List Char) : Except Fault (Int × List Char) :=
  match trimLeft cs with
  | '-' :: cs => (readNumber none cs).map fun (n, rest) => (-(n : Int), rest)
  | '+' :: cs => (readNumber none cs).map fun (n, rest) => ((n : Int), rest)
  | cs => (readNumber (some 4) cs).map fun (n, rest) => ((n : Int), rest)

/-- Reads a field of one or two digits that lies between `least` and `greatest`. -/
def readField (least greatest : Nat) (cs : List Char) : Except Fault (Nat × List Char) := do
  let (n, rest) ← readNumber (some 2) (trimLeft cs)
  if least ≤ n ∧ n ≤ greatest then .ok (n, rest) else .error .outOfRange

def readSeparator (c : Char) (cs : List Char) : Except Fault (List Char) :=
  match trimLeft cs with
  | [] => .error .tooShort
  | d :: rest => if d = c then .ok rest else .error .invalid

def readDivider : List Char → Except Fault (List Char)
  | 'T' :: rest => .ok rest
  | 't' :: rest => .ok rest
  | ' ' :: rest => .ok rest
  | [] => .error .tooShort
  | _ :: _ => .error .invalid

/-- Reads a fraction of a second in nanoseconds; digits behind the ninth are dropped. -/
def readFraction : List Char → Except Fault (Nat × List Char)
  | '.' :: cs => do
    let (_, rest) ← readNumber (some 9) cs
    let ds := (cs.take 9).takeWhile Char.isDigit
    .ok (Decimal.value ds * Nat.pow 10 (9 - ds.length), rest.dropWhile Char.isDigit)
  | cs => .ok (0, cs)

/-- The two characters at the start, which need two bytes. -/
def twoDigits : List Char → Except Fault (Char × Char × List Char)
  | a :: b :: rest => .ok (a, b, rest)
  | [a] => if a.utf8Size < 2 then .error .tooShort else .error .invalid
  | [] => .error .tooShort

/-- Reads two digits, the first of which may not be above `limit`. -/
def readPair (limit : Char) (cs : List Char) : Except Fault (Nat × List Char) := do
  let (a, b, rest) ← twoDigits cs
  if !(a.isDigit && b.isDigit) then .error .invalid
  else if limit < a then .error .outOfRange
  else .ok (Decimal.value [a, b], rest)

/-- Reads an offset in minutes: `Z`, `UTC`, or a sign, two digits, colons and blanks, and two digits. -/
def readOffset (cs : List Char) : Except Fault (Int × List Char) :=
  match trimLeft cs with
  | [] => .error .tooShort
  | a :: cs =>
    if a = 'Z' ∨ a = 'z' then .ok (0, cs)
    else if (a = 'U' ∨ a = 'u') ∧ (cs.take 2).map Char.toUpper = ['T', 'C'] then .ok (0, cs.drop 2)
    else if a = '+' ∨ a = '-' ∨ a.toNat = 0x2212 then do
      let (hours, cs) ← readPair '9' cs
      let (minutes, cs) ← readPair '5' (cs.dropWhile fun c => c = ':' || isBlank c)
      let total : Int := hours * 60 + minutes
      .ok (if a = '+' then total else -total, cs)
    else .error .invalid

def read (cs : List Char) : Except Fault Timestamp := do
  let (year, cs) ← readYear cs
  if year < -0x80000000 ∨ 0x80000000 ≤ year then .error .outOfRange
  let cs ← readSeparator '-' cs
  let (month, cs) ← readField 1 12 cs
  let cs ← readSeparator '-' cs
  let (day, cs) ← readField 1 31 cs
  let cs ← readDivider cs
  let (hour, cs) ← readField 0 23 cs
  let cs ← readSeparator ':' cs
  let (minute, cs) ← readField 0 59 cs
  let cs ← readSeparator ':' cs
  let (second, cs) ← readField 0 60 cs
  let (nano, cs) ← readFraction cs
  let (offset, cs) ← readOffset cs
  if !(trimLeft cs).isEmpty then .error .tooLong
  match ofFields? year month day hour minute second nano with
  | none => .error .outOfRange
  | some local_ =>
    if offset ≤ -1440 ∨ 1440 ≤ offset then .error .outOfRange
    else
      match local_.behind offset with
      | none => .error .impossible
      | some t => .ok t

end ServiceWatch.Timestamp
