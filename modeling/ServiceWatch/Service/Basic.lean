import ServiceWatch.Service.Codec

/-! Monitored services. -/
namespace ServiceWatch

abbrev NodeId := UInt32

abbrev MonitorId := UInt32

/-- A monitored service on one interface of one node. -/
structure ServiceId where
  node : NodeId
  address : Address
  name : String
  deriving DecidableEq

namespace ServiceId

/-- The text of a service: node, address and name. -/
def text (s : ServiceId) : String :=
  Text.Decimal.text s.node.toNat ++ "/" ++ s.address.text ++ "/" ++ s.name

/-- Services are ordered by node, then by address, then by name. -/
def le (a b : ServiceId) : Bool :=
  if a.node = b.node then
    if a.address = b.address then !decide (b.name < a.name) else a.address.le b.address
  else a.node ≤ b.node

def toJson (s : ServiceId) : Json :=
  .record [("node_id", .ofNat s.node.toNat), ("address", s.address.toJson),
    ("service_name", .ofString s.name)]

def shape : Json.Shape ServiceId :=
  (((Json.Shape.pure ServiceId.mk).and (.required "node_id" Json.decodeUInt32)).and
    (.required "address" Address.decode)).and (.required "service_name" Json.decodeString)

def decode : Json.Decoder ServiceId := shape.decode "struct ServiceId"

end ServiceId

/-- A service as one location monitor sees it. -/
structure Sighting where
  service : ServiceId
  monitor : MonitorId
  deriving DecidableEq

end ServiceWatch
