import ServiceWatch.CommandLine.Arguments
import ServiceWatch.CommandLine.Ending
import ServiceWatch.CommandLine.EnvironmentFile
import ServiceWatch.Configuration
import ServiceWatch.Http.Backend
import ServiceWatch.Http.Polling
import ServiceWatch.Poller.Coordinator
import ServiceWatch.Poller.Identity
import ServiceWatch.Time.ClockOffset

/-!
The poller as a program: it runs one scan pass with checks and a backend over HTTP, prints the
report, and ends with an error unless the coordinator is still running.
-/
namespace ServiceWatch.CommandLine

open ServiceWatch.Files (FileSystem FilePath)
open ServiceWatch.Poller

structure System (m : Type → Type) where
  files : FileSystem m
  /-- The directory in which the program runs. -/
  directory : FilePath
  environment : Environment
  /-- The home directory of the account. -/
  account : Option FilePath
  /-- Sends requests that may take so many seconds. -/
  transport : (seconds : UInt64) → Http.Transport m
  host : m HostDetails
  wallClock : m Timestamp
  /-- The milliseconds of a clock that never goes back. -/
  ticks : m Nat

namespace PollerProgram

def usage : Usage where
  program := "outpost-poller"
  switches := [
    { long := "file", short := some 'f', value := "FILE", help := "Config file" },
    { long := "location", value := "LOCATION",
      help := "Location to register at if this poller has no identity yet" }]

/-- What the program is set up with. -/
structure Setup where
  config : PollerConfig
  settings : FilePath

/-- The poller's section with what the environment says about the backend. -/
def withBackend (env : Environment) (config : Option PollerConfig) : Option PollerConfig :=
  match env.backendUrl?, config with
  | some url, some config => some { config with backendUrl := url }
  | some url, none => some { backendUrl := url }
  | none, config => config

/-- The poller's section with what the arguments and the environment say besides. -/
def withOverrides (env : Environment) (location : Option String) (config : PollerConfig) :
    PollerConfig :=
  { config with
    location := (location.orElse fun _ => env.location?).orElse fun _ => config.location
    settingsPath := env.settingsPath?.orElse fun _ => config.settingsPath }

/-- Puts together the configuration, where it is not for want of a backend or of a settings file. -/
def resolve (env : Environment) (account : Option FilePath) (location : Option String)
    (config : Option PollerConfig) : Except Ending Setup :=
  match withBackend env config with
  | none =>
    .error (.error "no poller configuration: pass a config file or set OUTPOST_BACKEND_URL")
  | some config =>
    let config := withOverrides env location config
    match (config.settingsPath.map FilePath.mk).orElse fun _ => env.defaultSettingsPath? account with
    | none =>
      .error (.error "no settings path configured and no user config directory available")
    | some settings => .ok ⟨config, settings⟩

variable {m : Type → Type} [Monad m]

/-- How the program ends when the environment file asks for what no variable can hold. -/
def unsettableEnding (fault : EnvironmentFile.Unsettable) : Ending where
  exit := 101
  complaint := "the variable " ++ fault.name ++ " cannot hold a NUL\n"

/-- The environment with the variables of the first environment file in some directories. -/
def loadEnvironment (system : System m) : List FilePath → m (Except Ending Environment)
  | [] => return .ok system.environment
  | directory :: rest => do
    match ← system.files.read (directory.join ".env") with
    | .ok bytes => return (EnvironmentFile.load system.environment bytes).mapError unsettableEnding
    | .error .notFound | .error .isDirectory => loadEnvironment system rest
    | .error _ => return .ok system.environment

/-- What the program is set up with in an environment according to its arguments, or how it ends
without that. -/
def configureIn (env : Environment) (system : System m) (arguments : List String) :
    m (Except Ending Setup) := do
  match Arguments.parse usage arguments with
  | .help => return .error { exit := 0, output := usage.help }
  | .refused fault => return .error { exit := 2, complaint := usage.complaint fault }
  | .values given =>
    match given.get? "file" with
    | none => return resolve env system.account (given.get? "location") none
    | some file =>
      match ← Config.load system.files ⟨file⟩ with
      | .error fault => return .error (.error fault.message)
      | .ok config => return resolve env system.account (given.get? "location") config.poller

/-- What the program is set up with according to its arguments, or how it ends without that. -/
def configure (system : System m) (arguments : List String) : m (Except Ending Setup) := do
  match ← loadEnvironment system system.directory.ancestors with
  | .error ending => return .error ending
  | .ok env => configureIn env system arguments

/-- What those remember who answer the coordinator. -/
structure Tools where
  polling : Http.Polling := {}
  offset : ClockOffset := .none

/-- The backend's time left the calendar. -/
structure ClockFault where

/-- The work of those who answer the coordinator. -/
abbrev Assistance (m : Type → Type) := StateT Tools (ExceptT ClockFault m)

/-- A step that only looks outside. -/
def outside {α : Type} (step : m α) : Assistance m α :=
  fun tools => do return (← ExceptT.lift step, tools)

def now (system : System m) : Assistance m Timestamp := do
  let wall ← outside system.wallClock
  match (← get).offset.adjust wall with
  | some time => return time
  | none => throw {}

def surroundings (system : System m) (setup : Setup) : Http.Surroundings (Assistance m) where
  exchange r := outside (system.transport setup.config.checkTimeoutSecs r)
  now := now system
  ticks := outside system.ticks

abbrev identities (system : System m) (setup : Setup) : IdentityStore m :=
  .inFile system.files setup.settings

def answer (system : System m) (setup : Setup) : (r : Request) → Assistance m r.Answer
  | .loadIdentity => outside (identities system setup).load
  | .storeIdentity id => outside ((identities system setup).save id)
  | .registerAt location => outside (Http.Backend.register transport backend location)
  | .hostDetails => outside system.host
  | .announce id details => outside (Http.Backend.announce transport backend id details.table)
  | .fetchLocators context => outside (Http.Backend.fetchLocators transport backend context)
  | .installLocators locators =>
    modify fun t => { t with polling := t.polling.installLocators locators }
  | .fetchConfiguration id => outside (Http.Backend.fetchConfiguration transport backend id)
  | .alignClock time => do
    let wall ← outside system.wallClock
    modify fun t => { t with offset := .align time wall }
  | .prepare service => do
    match (← get).polling.prepare service with
    | .error failure => return .error failure
    | .ok polling =>
      modify fun t => { t with polling }
      return .ok ()
  | .poll service => do return .ok (← (← get).polling.poll (surroundings system setup) service)
  | .fetchName id => outside (Http.Backend.fetchName transport backend id)
where
  /-- Reaches the backend. -/
  transport : Http.Transport m := system.transport setup.config.requestTimeoutSecs
  /-- The backend of the configuration. -/
  backend : Http.Backend := .ofUrl setup.config.backendUrl

/-- What changes while the coordinator is at work. -/
structure Work where
  memory : Memory := {}
  /-- The report that the coordinator handed over. -/
  report : Option ScanReport := none

def listen (change : Change) (w : Work) : Work :=
  match change with
  | .exitNecessary report => { w with report := some report }
  | _ => w

/-- The steps of the coordinator's calls; `ask` answers what it asks. -/
def handler (ask : (r : Request) → m r.Answer) : Call.Handler (StateT Work m) where
  ask r := StateT.lift (ask r)
  tell _ change := modify (listen change)
  access update :=
    modifyGet fun work => (work.memory, { work with memory := update work.memory })

def stop (fault : Fault) : Ending := .error fault.message fault.sources

def conclude (w : Work) : Ending :=
  let output := match w.report with
    | some report => report.toJson.compact ++ "\n"
    | none => ""
  match w.memory.state.fault? with
  | some fault => { stop fault with output }
  | none => { Ending.success with output }

def coordinate [MonadStateOf Work m] (setup : Setup) (h : Call.Handler m) : m Ending := do
  let coordinator : Coordinator := { metadata := setup.config.metadata }
  let _ ← coordinator.addListener.run h
  match ← coordinator.startUp.run h with
  | .error fault => return stop fault
  | .ok () =>
    if (← getThe Work).memory.state = .registering then
      match setup.config.location with
      | none => return .error "poller is not registered and no location is configured"
      | some location =>
        match ← (coordinator.register location).run h with
        | .error fault => return stop fault
        | .ok () => return conclude (← getThe Work)
    else return conclude (← getThe Work)

def clockEnding : Ending where
  exit := 101
  complaint := "the backend's time is out of range\n"

def run (system : System m) (arguments : List String) : m Ending := do
  match ← configure system arguments with
  | .error ending => return ending
  | .ok setup =>
    match ← (((coordinate setup (handler (answer system setup))).run {}).run {}).run with
    | .ok ((ending, _), _) => return ending
    | .error _ => return clockEnding

end PollerProgram

end ServiceWatch.CommandLine
