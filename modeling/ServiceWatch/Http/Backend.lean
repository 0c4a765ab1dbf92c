import ServiceWatch.Http.Exchange
import ServiceWatch.Poller.Call
import ServiceWatch.Text.Utf8

/-!
A backend that is reached over HTTP with bodies in JSON: `POST /monitors` registers, `POST
/monitors/{id}/starting` announces, and `GET` fetches `/monitors/{id}/configuration`,
`/monitors/{id}/name` and `/locators?context=remote_monitor`.
-/
namespace ServiceWatch.Http

open ServiceWatch.Poller (HostDetails)

/-- The address of a backend, without slashes at its end. -/
structure Backend where
  base : String

namespace Backend

def ofUrl (url : String) : Backend :=
  ⟨String.ofList (url.toList.reverse.dropWhile (· = '/')).reverse⟩

def url (b : Backend) (path : String) : String := b.base ++ path

def monitorUrl (b : Backend) (id page : String) : String := b.url ("/monitors/" ++ id ++ "/" ++ page)

def check (response : Response) : Except Failure Response :=
  if isSuccess response.status then .ok response
  else .error ⟨"HTTP error: " ++ statusText response.status, []⟩

def decodeBody {α : Type} (decode : Json.Decoder α) (body : List UInt8) : Except Failure α :=
  match Text.Utf8.decode body with
  | .error m => .error ⟨m.message, []⟩
  | .ok cs =>
    match Json.decodeText decode cs with
    | .ok a => .ok a
    | .error e => .error ⟨e.message, []⟩

def decodeResponse {α : Type} (decode : Json.Decoder α) (what : String) (response : Response) :
    Except Failure α := do
  let response ← check response
  attempting what do decodeBody decode (← response.body)

def send {m : Type → Type} [Monad m] (transport : Transport m) (what : String) (request : Request) :
    m (Except Failure Response) :=
  attempting what <$> transport request

/-- The answer to a registration in JSON: the identity of the poller. -/
def decodeRegistration : Json.Decoder String :=
  (Json.Shape.required "monitoring_system_id" Json.decodeString).decode "struct RegistrationResponse"

def decodeName : Json.Decoder String :=
  (Json.Shape.required "name" Json.decodeString).decode "struct MonitorNameResponse"

variable {m : Type → Type} [Monad m]

/-- Registers a poller at a location, which gives it an identity. -/
def register (transport : Transport m) (b : Backend) (location : String) : m (Except Failure String) := do
  let response ← send transport "failed to send registration request"
    { method := .post, url := b.url "/monitors", body := some (.record [("location", .ofString location)]) }
  return response >>= decodeResponse decodeRegistration "failed to parse registration response"

def announce (transport : Transport m) (b : Backend) (id : String) (details : Table String String) :
    m (Except Failure Unit) := do
  let response ← send transport "failed to send poller starting announcement"
    { method := .post, url := b.monitorUrl id "starting", body := some details.toJson }
  return discard (response >>= check)

def fetchConfiguration (transport : Transport m) (b : Backend) (id : String) :
    m (Except Failure PollerConfiguration) := do
  let response ← send transport "failed to request poller configuration"
    { method := .get, url := b.monitorUrl id "configuration" }
  return response >>= decodeResponse PollerConfiguration.decode "failed to parse poller configuration"

def fetchLocators (transport : Transport m) (b : Backend) (context : DistributionContext) :
    m (Except Failure (List ServiceMonitorLocator)) := do
  let response ← send transport "failed to request service monitor locators"
    { method := .get, url := b.url ("/locators?context=" ++ context.name) }
  return response >>=
    decodeResponse (Json.decodeList ServiceMonitorLocator.decode) "failed to parse service monitor locators"

def fetchName (transport : Transport m) (b : Backend) (id : String) : m (Except Failure String) := do
  let response ← send transport "failed to request monitor name"
    { method := .get, url := b.monitorUrl id "name" }
  return response >>= decodeResponse decodeName "failed to parse monitor name"

end Backend

end ServiceWatch.Http
