import ServiceWatch.Service.Codec

/-! Results of single service checks. -/
namespace ServiceWatch

/-- The verdict on a service. -/
inductive StatusCode where
  | up
  | down
  | unknown
  deriving DecidableEq

namespace StatusCode

/-- The name of a verdict as it is shown. -/
def name : StatusCode → String
  | up => "Up"
  | down => "Down"
  | unknown => "Unknown"

/-- The name of a verdict as it is written. -/
def key : StatusCode → String
  | up => "up"
  | down => "down"
  | unknown => "unknown"

def toJson (c : StatusCode) : Json := .ofString c.key

def decode : Json.Decoder StatusCode :=
  Json.decodeVariant ([up, down, unknown].map fun c => (c.key, c))

end StatusCode

/-- The result of one check; the response time is in milliseconds. -/
structure PollStatus where
  service : UInt32
  status : StatusCode
  reason : Option String
  time : Timestamp
  responseTime : Option UInt64
  deriving DecidableEq

namespace PollStatus

def up (service : UInt32) (time : Timestamp) : PollStatus := ⟨service, .up, none, time, none⟩

def down (service : UInt32) (reason : String) (time : Timestamp) : PollStatus :=
  ⟨service, .down, some reason, time, none⟩

def unknown (service : UInt32) (reason : String) (time : Timestamp) : PollStatus :=
  ⟨service, .unknown, some reason, time, none⟩

def withResponseTime (s : PollStatus) (ms : UInt64) : PollStatus := { s with responseTime := some ms }

def toJson (s : PollStatus) : Json :=
  .record [("service_id", .ofNat s.service.toNat), ("status", s.status.toJson),
    ("reason", .ofOption .ofString s.reason), ("timestamp", s.time.toJson),
    ("response_time_ms", .ofOption (fun ms : UInt64 => .ofNat ms.toNat) s.responseTime)]

def shape : Json.Shape PollStatus :=
  (((((Json.Shape.pure PollStatus.mk).and (.required "service_id" Json.decodeUInt32)).and
    (.required "status" StatusCode.decode)).and
    (.optional "reason" Json.decodeString)).and
    (.required "timestamp" Timestamp.decode)).and
    (.optional "response_time_ms" (Json.decodeUInt64 "u64"))

def decode : Json.Decoder PollStatus := shape.decode "struct PollStatus"

end PollStatus

/-- The results of one scan pass, with what is known about the customer. -/
structure ScanReport where
  customerAccountNumber : Option String
  customerName : Option String
  referenceId : Option String
  statuses : List PollStatus
  deriving DecidableEq

namespace ScanReport

def empty : ScanReport := ⟨none, none, none, []⟩

/-- A report without results that takes the customer's data from the metadata. -/
def ofMetadata (metadata : Table String String) : ScanReport where
  customerAccountNumber := metadata.get? "customer-account-number"
  customerName := metadata.get? "customer-name"
  referenceId := metadata.get? "reference-id"
  statuses := []

def add (r : ScanReport) (s : PollStatus) : ScanReport := { r with statuses := r.statuses ++ [s] }

def size (r : ScanReport) : Nat := r.statuses.length

def isEmpty (r : ScanReport) : Bool := r.statuses.isEmpty

def toJson (r : ScanReport) : Json :=
  .record [("customer_account_number", .ofOption .ofString r.customerAccountNumber),
    ("customer_name", .ofOption .ofString r.customerName),
    ("reference_id", .ofOption .ofString r.referenceId),
    ("poll_statuses", .array (r.statuses.map PollStatus.toJson))]

def shape : Json.Shape ScanReport :=
  ((((Json.Shape.pure ScanReport.mk).and
    (.optional "customer_account_number" Json.decodeString)).and
    (.optional "customer_name" Json.decodeString)).and
    (.optional "reference_id" Json.decodeString)).and
    (.required "poll_statuses" (Json.decodeList PollStatus.decode))

def decode : Json.Decoder ScanReport := shape.decode "struct ScanReport"

end ScanReport

end ServiceWatch
