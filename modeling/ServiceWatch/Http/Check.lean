import ServiceWatch.Http.Exchange
import ServiceWatch.Pattern.Match
import ServiceWatch.Pattern.Reader
import ServiceWatch.Poller.PollerConfiguration
import ServiceWatch.Text.Blank
import ServiceWatch.Text.Split
import ServiceWatch.Text.Utf8
import ServiceWatch.Text.Word

/-!
Checks of services over HTTP: what to request, and which responses are good ones. The parameters of
a service are `url`, or `port` and `path` instead of it, `method`, `expected_status` (a list with
commas) and `body_pattern`.
-/
namespace ServiceWatch.Http

open ServiceWatch.Text

structure BodyPattern where
  text : String
  pattern : Pattern

/-- A check that is ready to be run. -/
structure Check where
  url : String
  method : Method
  /-- The statuses of good responses; without a list, all that tell success. -/
  expectedStatus : Option (List UInt16)
  /-- What the body of a good response contains. -/
  bodyPattern : Option BodyPattern

/-- Two texts are the same but for the case of ASCII letters. -/
def sameButCase (a b : String) : Bool := a.toList.map Char.toLower = b.toList.map Char.toLower

namespace Check

/-- The service is to be reached with encryption. -/
def isSecure (s : PolledService) : Bool := sameButCase s.name "HTTPS"

/-- The port of a service, which is a standard one unless a parameter gives it. -/
def readPort (s : PolledService) : Except Failure UInt16 :=
  match s.parameters.get? "port" with
  | none => .ok (if isSecure s then 443 else 80)
  | some text =>
    match Word.read text.toList with
    | .ok port => .ok port
    | .error fault => .error ⟨fault.message, ["invalid port '" ++ text ++ "'"]⟩

/-- The address of a service and a port; brackets keep the colons of the one from that of the other. -/
def socket (address : Address) (port : UInt16) : String :=
  let host := match address with
    | .v4 .. => address.text
    | .v6 .. => "[" ++ address.text ++ "]"
  host ++ ":" ++ Text.Decimal.text port.toNat

def readUrl (s : PolledService) : Except Failure String :=
  match s.parameters.get? "url" with
  | some url => .ok url
  | none => do
    let port ← readPort s
    let scheme := if isSecure s then "https" else "http"
    return scheme ++ "://" ++ socket s.address port ++ (s.parameters.get? "path").getD "/"

def readMethod (s : PolledService) : Except Failure Method :=
  match s.parameters.get? "method" with
  | none => .ok .get
  | some text =>
    let name := String.ofList (text.toList.map Char.toUpper)
    match [Method.get, .post, .head].find? fun m => m.name = name with
    | some method => .ok method
    | none => .error ⟨"unsupported HTTP method '" ++ name ++ "'", []⟩

def readStatus (part : List Char) : Except Failure UInt16 :=
  match Word.read (trim part) with
  | .ok status => .ok status
  | .error fault => .error ⟨fault.message, ["invalid status code '" ++ String.ofList part ++ "'"]⟩

def readExpectedStatus (s : PolledService) : Except Failure (Option (List UInt16)) :=
  match s.parameters.get? "expected_status" with
  | none => .ok none
  | some text => ((split ',' text.toList).mapM readStatus).map some

def readBodyPattern (s : PolledService) : Except Failure (Option BodyPattern) :=
  match s.parameters.get? "body_pattern" with
  | none => .ok none
  | some text =>
    match Pattern.read text.toList with
    | some pattern => .ok (some ⟨text, pattern⟩)
    | none => .error ⟨"malformed pattern", ["invalid body pattern '" ++ text ++ "'"]⟩

/-- Prepares the check of a service; the first parameter that cannot be read counts. -/
def ofService (s : PolledService) : Except Failure Check := do
  let url ← readUrl s
  let method ← readMethod s
  let expectedStatus ← readExpectedStatus s
  let bodyPattern ← readBodyPattern s
  return { url, method, expectedStatus, bodyPattern }

def request (c : Check) : Request := { method := c.method, url := c.url }

def accepts (c : Check) (status : UInt16) : Bool :=
  match c.expectedStatus with
  | some statuses => statuses.contains status
  | none => isSuccess status

/-- Why a response is no good one; the status is looked at first. -/
def complaint (c : Check) (status : UInt16) (body : String) : Option String :=
  if !c.accepts status then some ("Unexpected status code: " ++ Text.Decimal.text status.toNat)
  else
    match c.bodyPattern with
    | none => none
    | some p =>
      if p.pattern.isMatch body then none
      else some ("Response body does not match '" ++ p.text ++ "'")

/-- The status and the body of a response; nothing is read behind the head of one to `HEAD`. -/
def read (c : Check) : Except Failure Response → Except Failure (UInt16 × String)
  | .error failure => .error (failure.during "HTTP request failed")
  | .ok response =>
    if c.method = .head then .ok (response.status, "")
    else do
      let body ← attempting "Failed to read response body" response.body
      return (response.status, String.ofList (Utf8.decodeLossy body))

end Check

end ServiceWatch.Http
