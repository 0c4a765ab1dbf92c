import Std.Async.Select
import Std.Async.Timer
import Std.Sync.Channel
import ServiceWatch.CommandLine.CorrelatorProgram
import ServiceWatch.CommandLine.PollerProgram
import ServiceWatch.Machine.Clock
import ServiceWatch.Machine.Host
import ServiceWatch.Machine.Sockets
import ServiceWatch.Machine.Storage
import ServiceWatch.Time.ClockOffset

/-! The command line: the first argument names one of the two programs, the others are for it. -/
namespace ServiceWatch.Main

open ServiceWatch.CommandLine
open Std.Async (Async)

def conclude (ending : Ending) : IO UInt32 := do
  IO.print ending.output
  IO.eprint ending.complaint
  return ending.exit.toUInt32

/-! ### The poller -/

def poller (arguments : List String) : IO UInt32 := do
  let system : System IO := {
    files := Machine.files
    directory := ← Machine.directory
    environment := ← Machine.environment
    account := ← Machine.account
    transport := Machine.transport
    host := Machine.host
    wallClock := Machine.wallClock
    ticks := Machine.ticks }
  conclude (← PollerProgram.run system arguments)

/-! ### The correlator -/

inductive Arrival where
  | bytes (chunk : ByteArray)
  | failure (message : String)

inductive Happening where
  /-- Something comes from the input, or its end. -/
  | arrival (a : Option Arrival)
  | tick

/-- Reads up to the end of a line; a larger piece might have to be waited for. -/
partial def readLine (input : IO.FS.Stream) (before : ByteArray) : IO ByteArray := do
  let next ← input.read 1
  let line := before ++ next
  if next.isEmpty || next = ByteArray.mk #[10] then return line else readLine input line

partial def passOn (input : IO.FS.Stream) (arrivals : Std.CloseableChannel Arrival) : IO Unit := do
  match ← (readLine input ByteArray.empty).toBaseIO with
  | .error e => discard (IO.wait (← arrivals.send (.failure (toString e))))
  | .ok chunk =>
    if chunk.isEmpty then discard arrivals.close.toBaseIO
    else
      discard (IO.wait (← arrivals.send (.bytes chunk)))
      passOn input arrivals

/-- Waits for something from the input, or for some milliseconds. -/
def await (arrivals : Std.CloseableChannel Arrival) (ms : Nat) : IO Happening :=
  Async.block do
    let timer ← Std.Async.Selector.sleep (.ofNat ms)
    Std.Async.Selectable.one #[
      .case arrivals.recvSelector fun a => return .arrival a,
      .case timer fun () => return .tick]

structure Start where
  wall : Timestamp
  ticks : Nat

def Start.clock (start : Start) (instant : Nat) : Timestamp :=
  (start.wall.addMillis instant).getD start.wall

def flush (start : Start) (s : CorrelatorProgram.Session) : IO CorrelatorProgram.Session := do
  let (found, s) := s.flush
  for f in found do IO.print (CorrelatorProgram.line start.clock f)
  (← IO.getStdout).flush
  return s

/-- Takes what comes from the input, and lets time pass in between. -/
partial def follow (arrivals : Std.CloseableChannel Arrival) (start : Start)
    (s : CorrelatorProgram.Session) : IO UInt32 := do
  let s ← flush start (s.passTo ((← Machine.ticks) - start.ticks))
  match ← await arrivals s.untilTick with
  | .tick => follow arrivals start s
  | .arrival a =>
    let s := s.passTo ((← Machine.ticks) - start.ticks)
    match a with
    | none =>
      let (result, s) := s.close
      discard (flush start s)
      match result with
      | .error ending => conclude ending
      | .ok () => conclude .success
    | some (.failure message) => conclude (.error message)
    | some (.bytes chunk) =>
      match s.arrive chunk.toList with
      | (.ok (), s) => follow arrivals start s
      | (.error ending, s) =>
        discard (flush start s)
        conclude ending

def correlator (arguments : List String) : IO UInt32 := do
  match ← CorrelatorProgram.configure Machine.files arguments with
  | .error ending => conclude ending
  | .ok config =>
    let arrivals ← Std.CloseableChannel.new
    discard (IO.asTask (passOn (← IO.getStdin) arrivals) .dedicated)
    follow arrivals ⟨← Machine.wallClock, ← Machine.ticks⟩ { schedule := .new config }

end ServiceWatch.Main

def main (arguments : List String) : IO UInt32 := do
  match arguments with
  | "correlator" :: rest => ServiceWatch.Main.correlator rest
  | "poller" :: rest => ServiceWatch.Main.poller rest
  | _ =>
    IO.eprintln "usage: (correlator | poller) [OPTIONS]"
    return 2
