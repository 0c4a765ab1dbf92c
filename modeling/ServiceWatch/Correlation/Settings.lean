import ServiceWatch.Json.Decode
import ServiceWatch.Json.Writer

/-! The rules that correlation follows, as a user sets them. -/
namespace ServiceWatch

/-- What happens to a flap tracker once it has reported flapping. -/
inductive FlapPolicy where
  /-- It keeps counting and stays silent until it expires. -/
  | retain
  /-- It starts counting from nothing and can report again. -/
  | reset
  deriving DecidableEq

namespace FlapPolicy

def name : FlapPolicy → String
  | retain => "retain"
  | reset => "reset"

def toJson (p : FlapPolicy) : Json := .ofString p.name

def decode : Json.Decoder FlapPolicy :=
  Json.decodeVariant ([retain, reset].map fun p => (p.name, p))

end FlapPolicy

structure CorrelationConfig where
  /-- So many monitors have to report a service lost for an outage of wide spread. -/
  wideSpreadThreshold : UInt64 := 3
  /-- So many transitions within the flap interval are flapping; none are if it is zero. -/
  flapCount : UInt64 := 3
  /-- The length in milliseconds of the window that transitions are counted in. -/
  flapIntervalMs : UInt64 := 300000
  flapPolicy : FlapPolicy := .retain
  /-- Afflictions are dropped at this age in seconds, or never. -/
  afflictionTimeoutSecs : Option UInt64 := none
  /-- The time in milliseconds between two sweeps. -/
  sweepIntervalMs : UInt64 := 1000
  deriving DecidableEq

namespace CorrelationConfig

/-- The number of monitors that makes an outage of wide spread. -/
def threshold (c : CorrelationConfig) : Nat := c.wideSpreadThreshold.toNat

/-- The flap interval in milliseconds. -/
def flapInterval (c : CorrelationConfig) : Nat := c.flapIntervalMs.toNat

/-- The age in milliseconds at which afflictions are dropped. -/
def afflictionTimeout (c : CorrelationConfig) : Option Nat :=
  c.afflictionTimeoutSecs.map fun s => s.toNat * 1000

/-- The time between two sweeps, which is at least a millisecond. -/
def sweepInterval (c : CorrelationConfig) : Nat := max c.sweepIntervalMs.toNat 1

def shape : Json.Shape CorrelationConfig :=
  ((((((Json.Shape.pure CorrelationConfig.mk).and
    (.defaulted "wide_spread_threshold" (Json.decodeUInt64 "usize") 3)).and
    (.defaulted "flap_count" (Json.decodeUInt64 "usize") 3)).and
    (.defaulted "flap_interval_ms" (Json.decodeUInt64 "u64") 300000)).and
    (.defaulted "flap_policy" FlapPolicy.decode .retain)).and
    (.optional "affliction_timeout_secs" (Json.decodeUInt64 "u64"))).and
    (.defaulted "sweep_interval_ms" (Json.decodeUInt64 "u64") 1000)

def decode : Json.Decoder CorrelationConfig := shape.decode "struct CorrelationConfig"

end CorrelationConfig

end ServiceWatch
