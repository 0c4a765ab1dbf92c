import ServiceWatch.Text.Decimal
import ServiceWatch.Text.Hexadecimal
import ServiceWatch.Text.Split

/-!
Addresses of pages that are reached without encryption, and references from one page to others. They are
read with the corrections that browsers make: a backslash stands for a slash, steps back in a path are
taken, and what may not stand in a target is spelled in bytes.
-/
namespace ServiceWatch.Http

/-- Where a page is: the host and the port that serve it, and what to ask for there. -/
structure Url where
  host : String
  port : UInt16
  /-- The path and, behind a question mark, the query. -/
  target : String
  deriving DecidableEq

namespace Url

def standardPort : UInt16 := 80

/-! ### Characters -/

/-- A slash, or a backslash, which stands for one. -/
def isSlash (c : Char) : Bool := c = '/' || c = '\\'

def endsAuthority (c : Char) : Bool := isSlash c || c = '?' || c = '#'

/-- Leaves out blanks and control characters at the end, and tabs and line ends everywhere. -/
def tidyEnd (cs : List Char) : List Char :=
  (cs.reverse.dropWhile (· ≤ ' ')).reverse.filter fun c => c ≠ '\t' && c ≠ '\n' && c ≠ '\r'

def tidy (cs : List Char) : List Char := tidyEnd (cs.dropWhile (· ≤ ' '))

/-- A printable character of ASCII that is none of these. -/
def isNoneOf (others : String) (c : Char) : Bool :=
  '!' ≤ c && c ≤ '~' && !others.toList.contains c

def isPathChar : Char → Bool := isNoneOf "\"#<>?`\x7b\x7d"

def isQueryChar : Char → Bool := isNoneOf "\"#<>'"

/-- A percent sign and two digits stand for a byte of a character that may not stand for itself. -/
def escape (keeps : Char → Bool) (cs : List Char) : List Char :=
  cs.flatMap fun c =>
    if keeps c then [c]
    else
      (String.ofList [c]).toUTF8.toList.flatMap fun b =>
        '%' :: (Text.Hexadecimal.padded 2 b.toNat).map Char.toUpper

/-! ### Targets -/

def isNamed (names : List String) (name : List Char) : Bool :=
  names.contains (String.ofList (name.map Char.toLower))

/-- A name for the place itself. -/
def isHere : List Char → Bool := isNamed [".", "%2e"]

/-- A name for the place above. -/
def isAbove : List Char → Bool := isNamed ["..", ".%2e", "%2e.", "%2e%2e"]

/-- The names that are left of a path behind those in `way`, which is in reverse. There is no step above
the root. A step at the end leads to a directory, and nothing is named in it. -/
def walk (way : List (List Char)) : List (List Char) → List (List Char)
  | [] => way.reverse
  | name :: names =>
    if isHere name || isAbove name then
      let way := if isAbove name then way.tail else way
      if names.isEmpty then ([] :: way).reverse else walk way names
    else walk (name :: way) names

/-- The path with the names between the slashes of a text; the first slash may be left out. -/
def readPath (cs : List Char) : List Char :=
  let slashed := cs.map fun c => if isSlash c then '/' else c
  let names := Text.split '/' (if slashed.head? = some '/' then slashed.tail else slashed)
  '/' :: Text.join '/' ((walk [] names).map (escape isPathChar))

/-- What to ask for: a path, and the query if there is one. -/
def readTarget (cs : List Char) : String :=
  let (path, query) := (cs.takeWhile (· ≠ '#')).span (· ≠ '?')
  String.ofList (readPath path ++ query.take 1 ++ escape isQueryChar (query.drop 1))

/-! ### Addresses -/

/-- Reads a port; without digits it is the standard one. -/
def readPort (cs : List Char) : Option UInt16 :=
  if cs.isEmpty then some standardPort
  else if cs.all Char.isDigit && Text.Decimal.value cs < 65536 then
    some (Text.Decimal.value cs).toUInt16
  else none

/-- Reads a host, which may be an address in brackets, and a port. -/
def readAuthority (cs : List Char) : Option (String × UInt16) := do
  let (host, rest) ←
    match cs with
    | '[' :: inner => do
      let host := inner.takeWhile (· ≠ ']')
      match inner.drop host.length with
      | _ :: rest => some (host, rest)
      | [] => none
    | _ => some (cs.span (· ≠ ':'))
  if host.isEmpty then none
  match rest with
  | [] => some (String.ofList host, standardPort)
  | ':' :: digits => return (String.ofList host, ← readPort digits)
  | _ => none

/-- Reads what is behind the scheme and any number of slashes; what stands before an at sign says who
asks, and is left out. -/
def readPlace (cs : List Char) : Option Url := do
  let place := cs.dropWhile isSlash
  let authority := place.takeWhile fun c => !endsAuthority c
  let (host, port) ← readAuthority (authority.reverse.takeWhile (· ≠ '@')).reverse
  return { host, port, target := readTarget (place.drop authority.length) }

/-- The scheme of an address in lower case, and what is behind its colon. -/
def splitScheme? (cs : List Char) : Option (String × List Char) :=
  let scheme := cs.takeWhile fun c => c.isAlphanum || "+-.".toList.contains c
  match scheme.head?.any Char.isAlpha, cs.drop scheme.length with
  | true, ':' :: rest => some (String.ofList (scheme.map Char.toLower), rest)
  | _, _ => none

def read (text : String) : Option Url := do
  let (scheme, rest) ← splitScheme? (tidy text.toList)
  if scheme = "http" then readPlace rest else none

/-! ### References -/

def path (u : Url) : List Char := u.target.toList.takeWhile (· ≠ '?')

/-- The path up to its last slash. -/
def directory (u : Url) : List Char := (u.path.reverse.dropWhile (· ≠ '/')).reverse

/-- The page for a reference without a scheme: at another place behind two slashes, or else at the same
one, with what differs from the page's own address. -/
def referFrom (u : Url) (cs : List Char) : Option Url :=
  if 2 ≤ (cs.takeWhile isSlash).length then readPlace cs
  else
    match cs with
    | [] | '#' :: _ => some u
    | '?' :: _ => some { u with target := readTarget (u.path ++ cs) }
    | c :: _ => some { u with target := readTarget (if isSlash c then cs else u.directory ++ cs) }

def refer (u : Url) (reference : String) : Option Url :=
  let cs := tidy reference.toList
  match splitScheme? cs with
  | none => u.referFrom cs
  | some (scheme, rest) =>
    if scheme ≠ "http" then none
    else if 2 ≤ (rest.takeWhile isSlash).length then readPlace rest
    else u.referFrom rest

/-- The host and the port as a request names them. -/
def authority (u : Url) : String :=
  let host := if u.host.contains ':' then "[" ++ u.host ++ "]" else u.host
  if u.port = standardPort then host else host ++ ":" ++ Text.Decimal.text u.port.toNat

def text (u : Url) : String := "http://" ++ u.authority ++ u.target

end Url

end ServiceWatch.Http
