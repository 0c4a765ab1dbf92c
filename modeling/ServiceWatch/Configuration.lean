import ServiceWatch.Correlation.Settings
import ServiceWatch.Files.FileSystem
import ServiceWatch.Service.Codec

/-! The configuration file: one section for the poller and one for correlation. -/
namespace ServiceWatch

structure PollerConfig where
  backendUrl : String
  /-- The location at which a poller without an identity registers. -/
  location : Option String := none
  /-- The file that keeps the identity. -/
  settingsPath : Option String := none
  /-- What every report says about the customer. -/
  metadata : Table String String := ∅
  checkTimeoutSecs : UInt64 := 10
  requestTimeoutSecs : UInt64 := 30
  deriving DecidableEq

namespace PollerConfig

def shape : Json.Shape PollerConfig :=
  ((((((Json.Shape.pure PollerConfig.mk).and (.required "backend_url" Json.decodeString)).and
    (.optional "location" Json.decodeString)).and
    (.optional "settings_path" (Json.decodeStringAs "path string"))).and
    (.defaulted "metadata" Table.decode ∅)).and
    (.defaulted "check_timeout_secs" (Json.decodeUInt64 "u64") 10)).and
    (.defaulted "request_timeout_secs" (Json.decodeUInt64 "u64") 30)

def decode : Json.Decoder PollerConfig := shape.decode "struct PollerConfig"

end PollerConfig

structure Config where
  poller : Option PollerConfig
  correlation : Option CorrelationConfig
  deriving DecidableEq

namespace Config

def shape : Json.Shape Config :=
  ((Json.Shape.pure Config.mk).and (.optional "poller" PollerConfig.decode)).and
    (.optional "correlation" CorrelationConfig.decode)

inductive Fault where
  /-- The file cannot be read. -/
  | unreadable (fault : Files.Fault)
  /-- The text is not a configuration. -/
  | invalid (error : Json.DecodeError)

def Fault.message : Fault → String
  | .unreadable fault => fault.message
  | .invalid error => "Invalid configuration file provided: " ++ error.message

def parse (text : List Char) : Except Fault Config :=
  match Json.decodeText (shape.decode "struct Config") text with
  | .ok c => .ok c
  | .error e => .error (.invalid e)

def load {m : Type → Type} [Monad m] (fs : Files.FileSystem m) (path : Files.FilePath) :
    m (Except Fault Config) := do
  match ← fs.readText path with
  | .error fault => return .error (.unreadable fault)
  | .ok text => return parse text

end Config

end ServiceWatch
