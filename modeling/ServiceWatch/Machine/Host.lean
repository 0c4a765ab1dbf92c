import Std.Async.UDP
import Std.Internal.UV.System
import ServiceWatch.CommandLine.Environment
import ServiceWatch.Machine.Sockets
import ServiceWatch.Poller.Call

/-! What is known about the machine, its environment and the account that a program runs under. -/
namespace ServiceWatch.Machine

open ServiceWatch.Files (FilePath)
open ServiceWatch.Poller (HostDetails)
open Std.Internal.UV

/-- The address of this machine on the way to others; finding it sends nothing. -/
def ownAddress : IO Address := do
  let socket ← Std.Async.UDP.Socket.mk
  socket.bind (socketAddress (ipAddress (.v4 0 0 0 0)) 0)
  socket.connect (socketAddress (ipAddress (.v4 192 0 2 1)) 9)
  match ← socket.getSockName with
  | .v4 address => return addressOf (.v4 address.addr)
  | .v6 address => return addressOf (.v6 address.addr)

def told? {α : Type} (question : IO α) : IO (Option α) := do
  match ← question.toBaseIO with
  | .ok a => return some a
  | .error _ => return none

def host : IO HostDetails := do
  let system ← told? System.osUname
  return {
    systemName := system.map (·.sysname)
    systemVersion := system.map (·.release)
    architecture := (system.map (·.machine)).getD "unknown"
    address := (← told? ownAddress).getD (.v4 127 0 0 1)
    hostName := ← told? System.osGetHostname }

def environment : IO CommandLine.Environment := return .ofList (← System.osEnviron).toList

def directory : IO FilePath := return ⟨← System.cwd⟩

def account : IO (Option FilePath) := return (← told? System.osHomedir).map FilePath.mk

end ServiceWatch.Machine
