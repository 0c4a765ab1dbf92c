import ServiceWatch.Data.Table
import ServiceWatch.Json.Decode
import ServiceWatch.Json.Writer
import ServiceWatch.Net.Address
import ServiceWatch.Time.Reader

/-! How addresses, points in time and maps of strings stand in JSON. -/
namespace ServiceWatch

def Address.toJson (x : Address) : Json := .ofString x.text

def Address.decode : Json.Decoder Address :=
  Json.decodeParsed "IP address" fun cs =>
    match Address.read cs with
    | some x => .ok x
    | none => .error "invalid IP address syntax"

def Timestamp.toJson (t : Timestamp) : Json := .ofString t.text

def Timestamp.decode : Json.Decoder Timestamp :=
  Json.decodeParsed "an RFC 3339 formatted date and time string" fun cs =>
    match Timestamp.read cs with
    | .ok t => .ok t
    | .error fault => .error fault.message

/-- A map of strings stands as an object with its keys in order. -/
def Table.toJson (t : Table String String) : Json :=
  .record ((t.entries.mergeSort fun a b => !decide (b.1 < a.1)).map fun (k, v) => (k, .ofString v))

/-- A map of strings is read from an object; of several members with one key the last one counts. -/
def Table.decode : Json.Decoder (Table String String) := fun v =>
  (Json.decodeMap Json.decodeString v).map Table.ofList

end ServiceWatch
