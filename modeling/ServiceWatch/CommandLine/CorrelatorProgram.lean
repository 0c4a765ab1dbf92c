import ServiceWatch.CommandLine.Arguments
import ServiceWatch.CommandLine.Ending
import ServiceWatch.Configuration
import ServiceWatch.Correlation.Schedule
import ServiceWatch.Text.Blank
import ServiceWatch.Text.Lines
import ServiceWatch.Text.Utf8

/-!
The correlator as a program: it reads signals, one a line in JSON, and prints the events that it
derives from them. Blank lines and lines that are no signals are skipped.
-/
namespace ServiceWatch.CommandLine

open ServiceWatch.Files (FileSystem)
open ServiceWatch.Text

namespace CorrelatorProgram

def usage : Usage where
  program := "outpost-correlator"
  switches := [{ long := "file", short := some 'f', value := "FILE", help := "Config file" }]

/-- The configuration that the arguments name, or how the program ends without one. -/
def configure {m : Type → Type} [Monad m] (fs : FileSystem m) (arguments : List String) :
    m (Except Ending CorrelationConfig) := do
  match Arguments.parse usage arguments with
  | .help => return .error { exit := 0, output := usage.help }
  | .refused fault => return .error { exit := 2, complaint := usage.complaint fault }
  | .values given =>
    match given.get? "file" with
    | none => return .ok {}
    | some file =>
      match ← Config.load fs ⟨file⟩ with
      | .error fault => return .error (.error fault.message)
      | .ok config => return .ok (config.correlation.getD {})

def readSignal (line : List Char) : Option Signal :=
  if isAllBlank line then none
  else
    match Json.decodeText Signal.decode line with
    | .ok signal => some signal
    | .error _ => none

/-- Submits a signal; a correlator that stopped takes none. -/
def submit (s : Schedule) (signal : Signal) : Schedule :=
  match s.call (.submit signal) with
  | some (_, s) => s
  | none => s

def feed (s : Schedule) (line : List Char) : Schedule :=
  match readSignal line with
  | some signal => submit s signal
  | none => s

/-- Takes lines of the input. Bytes that are no text end the program; a line is read with its end. -/
def feedLines (s : Schedule) : List (List UInt8) → Except Ending Unit × Schedule
  | [] => (.ok (), s)
  | line :: rest =>
    match Utf8.decode line with
    | .error malformed => (.error (.error malformed.message), s)
    | .ok cs => feedLines (feed s (withoutEnd cs)) rest

/-- Asks for the size of the memory, and stops the correlator. -/
def finish (s : Schedule) : Schedule :=
  let s := match s.call .memorySize with
    | some (_, s) => s
    | none => s
  match s.call .shutdown with
  | some (_, s) => s
  | none => s

structure Session where
  schedule : Schedule
  /-- What came behind the last end of a line. -/
  pending : List UInt8 := []

namespace Session

/-- Takes bytes of the input. Only whole lines are looked at; the rest waits for its end. -/
def arrive (s : Session) (bytes : List UInt8) : Except Ending Unit × Session :=
  let (whole, pending) := cutBehindLines (s.pending ++ bytes)
  let (result, schedule) := feedLines s.schedule (lines whole)
  (result, { schedule, pending })

def close (s : Session) : Except Ending Unit × Session :=
  match feedLines s.schedule (lines s.pending) with
  | (.ok (), schedule) => (.ok (), { schedule := finish schedule })
  | (.error ending, schedule) => (.error ending, { schedule })

def passTo (s : Session) (instant : Nat) : Session :=
  { s with schedule := s.schedule.pass (instant - s.schedule.now) }

def flush (s : Session) : List Finding × Session :=
  let (found, schedule) := s.schedule.drain
  (found, { s with schedule })

def untilTick (s : Session) : Nat := s.schedule.ticker.due - s.schedule.now

end Session

/-- What a session finds in an input that comes all at once, and how it ends. -/
def digest (s : Session) (input : List UInt8) : List Finding × Ending :=
  match s.arrive input with
  | (.error ending, s) => (s.schedule.published, ending)
  | (.ok (), s) =>
    match s.close with
    | (.error ending, s) => (s.schedule.published, ending)
    | (.ok (), s) => (s.schedule.published, .success)

/-- Runs the program on an input that comes all at once. -/
def run {m : Type → Type} [Monad m] (fs : FileSystem m) (arguments : List String)
    (input : List UInt8) : m (List Finding × Ending) := do
  match ← configure fs arguments with
  | .error ending => return ([], ending)
  | .ok config => return digest { schedule := .new config } input

def eventLine (e : CorrelatedEvent) : String := e.toJson.compact ++ "\n"

def line (clock : Nat → Timestamp) (f : Finding) : String := eventLine (f.toEvent clock)

end CorrelatorProgram

end ServiceWatch.CommandLine
