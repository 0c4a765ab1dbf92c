import ServiceWatch.Service.Basic

/-! Reports of location monitors that a service was lost or regained. -/
namespace ServiceWatch

inductive SignalKind where
  | lost
  | regained
  deriving DecidableEq

namespace SignalKind

def uei : SignalKind → String
  | lost => "uei.opennms.org/remote/nodes/nodeLostService"
  | regained => "uei.opennms.org/remote/nodes/nodeRegainedService"

def ofUei? (s : String) : Option SignalKind :=
  if s = lost.uei then some lost else if s = regained.uei then some regained else none

def name : SignalKind → String
  | lost => "lost"
  | regained => "regained"

def ofText? (s : String) : Option SignalKind :=
  if s = lost.name then some lost else if s = regained.name then some regained else ofUei? s

def toJson (k : SignalKind) : Json := .ofString k.name

/-- A kind is read from its short name or its event identifier. -/
def decode : Json.Decoder SignalKind :=
  Json.decodeParsed "a string" fun cs =>
    match ofText? (String.ofList cs) with
    | some k => .ok k
    | none => .error ("unknown signal kind '" ++ String.ofList cs ++ "'")

end SignalKind

/-- The report of one location monitor on one service. -/
structure Signal where
  kind : SignalKind
  service : ServiceId
  monitor : MonitorId
  time : Timestamp
  deriving DecidableEq

namespace Signal

def sighting (s : Signal) : Sighting := ⟨s.service, s.monitor⟩

def toJson (s : Signal) : Json :=
  .record [("kind", s.kind.toJson), ("node_id", .ofNat s.service.node.toNat),
    ("address", s.service.address.toJson), ("service_name", .ofString s.service.name),
    ("location_monitor_id", .ofNat s.monitor.toNat), ("timestamp", s.time.toJson)]

def shape : Json.Shape Signal :=
  ((((((Json.Shape.pure fun kind node address name monitor time =>
      Signal.mk kind ⟨node, address, name⟩ monitor time).and
    (.requiredAs "kind" ["uei"] SignalKind.decode)).and
    (.required "node_id" Json.decodeUInt32)).and
    (.required "address" Address.decode)).and
    (.required "service_name" Json.decodeString)).and
    (.required "location_monitor_id" Json.decodeUInt32)).and
    (.required "timestamp" Timestamp.decode)

def decode : Json.Decoder Signal := shape.decode "struct Signal"

end Signal

end ServiceWatch
