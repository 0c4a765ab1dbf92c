import ServiceWatch.Service.Basic

/-! What the backend tells a poller: the services to check, who checks them, and the time. -/
namespace ServiceWatch

structure PolledService where
  id : UInt32
  node : NodeId
  nodeLabel : Option String
  address : Address
  name : String
  /-- What the check of the service is told. -/
  parameters : Table String String
  deriving DecidableEq

namespace PolledService

def toJson (s : PolledService) : Json :=
  .record [("service_id", .ofNat s.id.toNat), ("node_id", .ofNat s.node.toNat),
    ("node_label", .ofOption .ofString s.nodeLabel), ("address", s.address.toJson),
    ("service_name", .ofString s.name), ("parameters", s.parameters.toJson)]

def shape : Json.Shape PolledService :=
  ((((((Json.Shape.pure PolledService.mk).and (.required "service_id" Json.decodeUInt32)).and
    (.required "node_id" Json.decodeUInt32)).and
    (.optional "node_label" Json.decodeString)).and
    (.required "address" Address.decode)).and
    (.required "service_name" Json.decodeString)).and
    (.defaulted "parameters" Table.decode ∅)

def decode : Json.Decoder PolledService := shape.decode "struct PolledService"

end PolledService

/-- Names the monitor that checks the services of a name. -/
structure ServiceMonitorLocator where
  serviceName : String
  monitor : String
  deriving DecidableEq

namespace ServiceMonitorLocator

def toJson (l : ServiceMonitorLocator) : Json :=
  .record [("service_name", .ofString l.serviceName), ("monitor", .ofString l.monitor)]

def shape : Json.Shape ServiceMonitorLocator :=
  ((Json.Shape.pure ServiceMonitorLocator.mk).and (.required "service_name" Json.decodeString)).and
    (.required "monitor" Json.decodeString)

def decode : Json.Decoder ServiceMonitorLocator := shape.decode "struct ServiceMonitorLocator"

end ServiceMonitorLocator

inductive DistributionContext where
  | remoteMonitor
  deriving DecidableEq

namespace DistributionContext

def name : DistributionContext → String
  | remoteMonitor => "remote_monitor"

def toJson (c : DistributionContext) : Json := .ofString c.name

def decode : Json.Decoder DistributionContext :=
  Json.decodeVariant [(remoteMonitor.name, remoteMonitor)]

end DistributionContext

/-- The services of a scan pass in the order of their checks, and the backend's time. -/
structure PollerConfiguration where
  services : List PolledService
  serverTime : Timestamp
  deriving DecidableEq

namespace PollerConfiguration

def toJson (c : PollerConfiguration) : Json :=
  .record [("services", .array (c.services.map PolledService.toJson)),
    ("server_time", c.serverTime.toJson)]

def shape : Json.Shape PollerConfiguration :=
  ((Json.Shape.pure PollerConfiguration.mk).and
    (.required "services" (Json.decodeList PolledService.decode))).and
    (.required "server_time" Timestamp.decode)

def decode : Json.Decoder PollerConfiguration := shape.decode "struct PollerConfiguration"

end PollerConfiguration

end ServiceWatch
