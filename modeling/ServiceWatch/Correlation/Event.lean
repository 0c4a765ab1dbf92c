import ServiceWatch.Correlation.Signal

/-! Events that correlation derives from signals. -/
namespace ServiceWatch

inductive EventKind where
  | wideSpreadOutage
  | wideSpreadOutageResolved
  | serviceFlapping
  deriving DecidableEq

namespace EventKind

def uei : EventKind → String
  | wideSpreadOutage => "uei.opennms.org/correlation/locationMonitors/wideSpreadOutage"
  | wideSpreadOutageResolved =>
    "uei.opennms.org/correlation/locationMonitors/wideSpreadOutageResolved"
  | serviceFlapping => "uei.opennms.org/correlation/locationMonitors/serviceFlapping"

def name : EventKind → String
  | wideSpreadOutage => "wide_spread_outage"
  | wideSpreadOutageResolved => "wide_spread_outage_resolved"
  | serviceFlapping => "service_flapping"

def toJson (k : EventKind) : Json := .ofString k.name

def decode : Json.Decoder EventKind :=
  Json.decodeVariant
    ([wideSpreadOutage, wideSpreadOutageResolved, serviceFlapping].map fun k => (k.name, k))

end EventKind

/-- An event about a service. Only a flapping event names a monitor. -/
structure CorrelatedEvent where
  kind : EventKind
  uei : String
  service : ServiceId
  monitor : Option MonitorId
  time : Timestamp
  deriving DecidableEq

namespace CorrelatedEvent

/-- An event that carries the event identifier of its kind. -/
def ofKind (kind : EventKind) (service : ServiceId) (monitor : Option MonitorId)
    (time : Timestamp) : CorrelatedEvent :=
  ⟨kind, kind.uei, service, monitor, time⟩

/-- The fields of an event in JSON, with the given value for its time. -/
def toJsonWith (e : CorrelatedEvent) (time : Json) : Json :=
  .record [("kind", e.kind.toJson), ("uei", .ofString e.uei),
    ("node_id", .ofNat e.service.node.toNat), ("address", e.service.address.toJson),
    ("service_name", .ofString e.service.name),
    ("location_monitor_id", .ofOption (fun m : MonitorId => .ofNat m.toNat) e.monitor),
    ("timestamp", time)]

def toJson (e : CorrelatedEvent) : Json := e.toJsonWith e.time.toJson

def shape : Json.Shape CorrelatedEvent :=
  (((((((Json.Shape.pure fun kind uei node address name monitor time =>
      CorrelatedEvent.mk kind uei ⟨node, address, name⟩ monitor time).and
    (.required "kind" EventKind.decode)).and
    (.required "uei" Json.decodeString)).and
    (.required "node_id" Json.decodeUInt32)).and
    (.required "address" Address.decode)).and
    (.required "service_name" Json.decodeString)).and
    (.optional "location_monitor_id" Json.decodeUInt32)).and
    (.required "timestamp" Timestamp.decode)

def decode : Json.Decoder CorrelatedEvent := shape.decode "struct CorrelatedEvent"

end CorrelatedEvent

end ServiceWatch
