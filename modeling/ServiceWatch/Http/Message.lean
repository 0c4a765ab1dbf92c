import ServiceWatch.Http.Exchange
import ServiceWatch.Http.Url
import ServiceWatch.Text.Blank
import ServiceWatch.Text.Decimal
import ServiceWatch.Text.Hexadecimal
import ServiceWatch.Text.Utf8

/-!
Messages of HTTP/1.1 as bytes: how a request is written, how a response is read while its bytes
arrive, and where its body ends.
-/
namespace ServiceWatch.Http.Message

/-! ### Requests -/

def headLine (name value : String) : String := name ++ ": " ++ value ++ "\r\n"

def bodyLines (body : String) : String :=
  headLine "content-type" "application/json" ++
    headLine "content-length" (Text.Decimal.text body.utf8ByteSize)

/-- The bytes of a request for a page; the connection is not used again. -/
def render (r : Request) (u : Url) : List UInt8 :=
  let body := r.body.map Json.compact
  let head := r.method.name ++ " " ++ u.target ++ " HTTP/1.1\r\n" ++ headLine "host" u.authority ++
    headLine "accept" "*/*" ++ headLine "connection" "close" ++ (body.map bodyLines).getD "" ++ "\r\n"
  (head ++ body.getD "").toUTF8.toList

/-! ### Responses -/

/-- What a head says: the status, and fields by their names in lower case. -/
structure Head where
  status : UInt16
  fields : List (String × String)
  deriving DecidableEq

def Head.field? (h : Head) (name : String) : Option String := List.lookup name h.fields

/-- What is known from bytes that arrived so far. -/
inductive Reading (α : Type) where
  | more
  | malformed
  | done (result : α)
  deriving DecidableEq

def Reading.bind {α β : Type} : Reading α → (α → Reading β) → Reading β
  | more, _ => more
  | malformed, _ => malformed
  | done a, f => f a

/-- What is known once no more bytes come. -/
def Reading.final {α : Type} : Reading α → Option α
  | done a => some a
  | more | malformed => none

/-- The first line, and what is behind its end. -/
def takeLine : List UInt8 → Option (List UInt8 × List UInt8)
  | [] => none
  | b :: bs =>
    if b = 10 then some ([], bs)
    else if b = 13 ∧ bs.head? = some 10 then some ([], bs.drop 1)
    else (takeLine bs).map fun (line, rest) => (b :: line, rest)

theorem takeLine_lt {bs line rest : List UInt8} (h : takeLine bs = some (line, rest)) :
    rest.length < bs.length := by
  induction bs generalizing line rest with
  | nil => simp [takeLine] at h
  | cons b bs ih =>
    rw [takeLine] at h
    split at h
    · simp_all
    · split at h
      · simp only [Option.some.injEq, Prod.mk.injEq] at h
        rw [← h.2, List.length_drop, List.length_cons]
        omega
      · obtain ⟨⟨line', rest'⟩, h', e⟩ := Option.map_eq_some_iff.1 h
        simp only [Prod.mk.injEq] at e
        have : rest'.length < bs.length := ih h'
        rw [← e.2, List.length_cons]
        omega

def characters (line : List UInt8) : List Char := Text.Utf8.decodeLossy line

def readStatusLine (line : List UInt8) : Option UInt16 :=
  match characters line with
  | 'H' :: 'T' :: 'T' :: 'P' :: '/' :: '1' :: '.' :: minor :: ' ' :: a :: b :: c :: rest =>
    if [minor, a, b, c].all Char.isDigit && (rest.isEmpty || rest.head? = some ' ') then
      some (Text.Decimal.value [a, b, c]).toUInt16
    else none
  | _ => none

def readField (line : List UInt8) : Option (String × String) :=
  let cs := characters line
  let name := cs.takeWhile (· ≠ ':')
  match cs.drop name.length with
  | _ :: value => some (String.ofList (name.map Char.toLower), String.ofList (Text.trim value))
  | [] => none

def readFields (bs : List UInt8) : Reading (List (String × String) × List UInt8) :=
  match h : takeLine bs with
  | none => .more
  | some ([], rest) => .done ([], rest)
  | some (line, rest) =>
    match readField line with
    | none => .malformed
    | some field =>
      have := takeLine_lt h
      (readFields rest).bind fun (fields, rest) => .done (field :: fields, rest)
termination_by bs.length

def readHead (bs : List UInt8) : Reading (Head × List UInt8) :=
  match takeLine bs with
  | none => .more
  | some (line, rest) =>
    match readStatusLine line with
    | none => .malformed
    | some status => (readFields rest).bind fun (fields, rest) => .done (⟨status, fields⟩, rest)

/-- How the end of a body is found. -/
inductive Framing where
  /-- There is no body. -/
  | empty
  | length (n : Nat)
  /-- Pieces come with their lengths. -/
  | chunked
  /-- The body ends with the connection. -/
  | toEnd
  deriving DecidableEq

/-- How the body of a response ends; nothing is known if its length is no number. -/
def framing (method : Method) (h : Head) : Option Framing :=
  if method = .head ∨ h.status < 200 ∨ h.status = 204 ∨ h.status = 304 then some .empty
  else if (h.field? "transfer-encoding").map String.toLower = some "chunked" then some .chunked
  else
    match h.field? "content-length" with
    | none => some .toEnd
    | some text =>
      if !text.isEmpty && text.toList.all Char.isDigit then
        some (.length (Text.Decimal.value text.toList))
      else none

/-- Reads the length of a piece; behind a semicolon there may be more about the piece. -/
def readChunkLength (line : List UInt8) : Option Nat :=
  let digits := Text.trim ((characters line).takeWhile (· ≠ ';'))
  if digits.isEmpty then none else Text.Hexadecimal.value? digits

/-- Reads pieces up to an empty one. -/
def readChunks (bs : List UInt8) : Reading (List UInt8) :=
  match h : takeLine bs with
  | none => .more
  | some (line, rest) =>
    match readChunkLength line with
    | none => .malformed
    | some 0 => .done []
    | some n =>
      if rest.length < n then .more
      else
        match h' : takeLine (rest.drop n) with
        | none => .more
        | some ([], behind) =>
          have := takeLine_lt h
          have := takeLine_lt h'
          (readChunks behind).bind fun body => .done (rest.take n ++ body)
        | some (_, _) => .malformed
termination_by bs.length
decreasing_by
  simp only [List.length_drop] at *
  omega

/-- Reads a body; `ended` says that no more bytes come. -/
def readBody (ended : Bool) (bs : List UInt8) : Framing → Reading (List UInt8)
  | .empty => .done []
  | .length n => if bs.length < n then .more else .done (bs.take n)
  | .chunked => readChunks bs
  | .toEnd => if ended then .done bs else .more

/-- A response, and the place that it refers to instead of itself. -/
structure Received where
  response : Response
  location : Option String

/-- The bytes that come to an end too early. -/
def cutShort : Failure := ⟨"end of file before message length reached", []⟩

/-- The body of a response; once its head is there, what is wrong with the body does not matter to it. -/
def readRest (method : Method) (ended : Bool) (h : Head) (bs : List UInt8) : Reading Received :=
  let received (body : Except Failure (List UInt8)) : Reading Received :=
    .done ⟨⟨h.status, body⟩, h.field? "location"⟩
  match framing method h with
  | none => received (.error cutShort)
  | some framing =>
    match readBody ended bs framing with
    | .done body => received (.ok body)
    | .malformed => received (.error cutShort)
    | .more => if ended then received (.error cutShort) else .more

/-- Reads heads up to the first one that is final; those before it say that work is going on. -/
def readFinalHead (bs : List UInt8) : Nat → Reading (Head × List UInt8)
  | 0 => .malformed
  | fuel + 1 =>
    (readHead bs).bind fun (h, rest) =>
      if 100 ≤ h.status ∧ h.status < 200 ∧ h.status ≠ 101 then readFinalHead rest fuel
      else .done (h, rest)

/-- Reads the response to a request; `ended` says that no more bytes come. -/
def read (method : Method) (ended : Bool) (bs : List UInt8) : Reading Received :=
  (readFinalHead bs (bs.length + 1)).bind fun (h, rest) => readRest method ended h rest

/-! ### Redirection -/

def isRedirection (status : UInt16) : Bool := [301, 302, 303, 307, 308].contains status

/-- The request that a redirection leads to; most of them ask to fetch and to send nothing. -/
def redirected (r : Request) (status : UInt16) (place : Url) : Request :=
  if status = 307 ∨ status = 308 then { r with url := place.text }
  else if r.method = .head then { method := .head, url := place.text }
  else { method := .get, url := place.text }

/-- The request to send next, if a response to a request for a page sends elsewhere. -/
def next? (r : Request) (u : Url) (received : Received) : Option Request :=
  if isRedirection received.response.status then
    (received.location >>= u.refer).map (redirected r received.response.status)
  else none

end ServiceWatch.Http.Message
