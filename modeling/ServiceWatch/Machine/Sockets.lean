import Std.Async.DNS
import Std.Async.TCP
import Std.Async.Timer
import ServiceWatch.Http.Message
import ServiceWatch.Net.Address

/-! Exchanges over HTTP through the sockets of the machine. -/
namespace ServiceWatch.Machine

open Std.Async (Async)
open Std.Async.TCP.Socket (Client)
open Std.Net (IPAddr SocketAddress)
open ServiceWatch.Http

def ipAddress : Address → IPAddr
  | .v4 a b c d => .v4 ⟨#v[a, b, c, d]⟩
  | .v6 a b c d e f g h => .v6 ⟨#v[a, b, c, d, e, f, g, h]⟩

def addressOf : IPAddr → Address
  | .v4 ip => .v4 ip.octets[0] ip.octets[1] ip.octets[2] ip.octets[3]
  | .v6 ip =>
    .v6 ip.segments[0] ip.segments[1] ip.segments[2] ip.segments[3] ip.segments[4] ip.segments[5]
      ip.segments[6] ip.segments[7]

def socketAddress (ip : IPAddr) (port : UInt16) : SocketAddress :=
  match ip with
  | .v4 addr => .v4 { addr, port }
  | .v6 addr => .v6 { addr, port }

/-- The addresses of a host by its name, or by an address. -/
def lookUp (host : String) : Async (List IPAddr) := do
  match Address.read host.toList with
  | some address => return [ipAddress address]
  | none => return (← Std.Async.DNS.getAddrInfo host "").toList

def connectTo (port : UInt16) (ip : IPAddr) : Async Client := do
  let client ← Client.mk
  client.connect (socketAddress ip port)
  return client

/-- Connects to the first of some addresses that can be reached. -/
def connect (port : UInt16) : List IPAddr → Async Client
  | [] => throw (IO.userError "the host has no address that can be reached")
  | [ip] => connectTo port ip
  | ip :: rest => do
    try connectTo port ip
    catch _ => connect port rest

partial def receive (client : Client) (method : Method) (bytes : List UInt8) :
    Async Message.Received := do
  let chunk ← client.recv? 65536
  let bytes := bytes ++ (chunk.map ByteArray.toList).getD []
  match Message.read method chunk.isNone bytes with
  | .done received => return received
  | .malformed => throw (IO.userError "the response is malformed")
  | .more =>
    if chunk.isNone then throw (IO.userError "the connection was closed before a response came")
    else receive client method bytes

def ask (request : Request) (url : Url) : Async Message.Received := do
  let client ← connect url.port (← lookUp url.host)
  client.sendAll #[ByteArray.mk (Message.render request url).toArray]
  receive client request.method []

/-- The most redirections that are followed. -/
def redirectionLimit : Nat := 10

/-- Sends a request; there may be another one to send next. -/
def step (request : Request) : Async (Response × Option Request) := do
  match Url.read request.url with
  | none => throw (IO.userError "the address is none of HTTP without encryption")
  | some url =>
    let received ← ask request url
    return (received.response, Message.next? request url received)

/-- Sends a request, and those that redirections lead to. -/
def follow (request : Request) (redirections : Nat) : Async Response := do
  let (response, next) ← step request
  match next, redirections with
  | none, _ => return response
  | some _, 0 => throw (IO.userError "there are too many redirections")
  | some next, redirections + 1 => follow next redirections

def failureOf (request : Request) (e : IO.Error) : Failure :=
  ⟨toString e, ["error sending request for url (" ++ request.url ++ ")"]⟩

/-- The milliseconds of at most a year. -/
def milliseconds (seconds : UInt64) : Int := (min seconds.toNat 31536000) * 1000

/-- Sends requests that have to be answered within so many seconds. -/
def transport (seconds : UInt64) : Transport IO := fun request => do
  let exchange : Async (Option Response) := some <$> follow request redirectionLimit
  let deadline : Async (Option Response) := do
    Std.Async.sleep (.ofInt (milliseconds seconds))
    return none
  match ← (Async.race exchange deadline).block.toBaseIO with
  | .ok (some response) => return .ok response
  | .ok none => return .error (failureOf request (IO.userError "operation timed out"))
  | .error e => return .error (failureOf request e)

end ServiceWatch.Machine
