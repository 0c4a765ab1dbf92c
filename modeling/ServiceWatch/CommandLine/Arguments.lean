import ServiceWatch.Data.Table

/-! The arguments of a program: switches that take a value each, and a request for help. -/
namespace ServiceWatch.CommandLine

/-- A switch that takes a value, by its long name and perhaps by a letter. -/
structure Switch where
  long : String
  short : Option Char := none
  /-- What the value is called in the help. -/
  value : String
  help : String

structure Usage where
  program : String
  switches : List Switch

/-- Why arguments are refused. -/
inductive ArgumentFault where
  | unexpected (argument : String)
  | missingValue (switch : Switch)
  | repeated (switch : Switch)
  | unexpectedValue (value : String)

inductive Arguments where
  /-- The values by the long names of their switches. -/
  | values (given : Table String String)
  | help
  | refused (fault : ArgumentFault)

namespace Arguments

/-- An argument that cannot be a value: it starts with a dash and has more behind it. -/
def looksLikeSwitch (argument : String) : Bool :=
  match argument.toList with
  | '-' :: _ :: _ => true
  | _ => false

/-- What one argument says about a switch. -/
inductive Sign where
  /-- The switch is there, perhaps with its value attached. -/
  | switch (s : Switch) (attached : Option String)
  | help
  /-- What follows cannot be a switch. -/
  | terminator
  | fault (f : ArgumentFault)

def splitEquals (cs : List Char) : List Char × Option (List Char) :=
  let name := cs.takeWhile (· ≠ '=')
  match cs.drop name.length with
  | [] => (name, none)
  | _ :: value => (name, some value)

def readLong (u : Usage) (argument : String) (cs : List Char) : Sign :=
  let (name, attached) := splitEquals cs
  let name := String.ofList name
  let attached := attached.map String.ofList
  if name = "help" then
    match attached with
    | none => .help
    | some value => .fault (.unexpectedValue value)
  else
    match u.switches.find? fun s => s.long = name with
    | some s => .switch s attached
    | none => .fault (.unexpected argument)

/-- A switch by its letter; its value may follow at once or behind an equals sign. -/
def readShort (u : Usage) (argument : String) (c : Char) (cs : List Char) : Sign :=
  if c = 'h' then .help
  else
    match u.switches.find? fun s => s.short = some c with
    | none => .fault (.unexpected argument)
    | some s =>
      match cs with
      | [] => .switch s none
      | '=' :: value => .switch s (some (String.ofList value))
      | value => .switch s (some (String.ofList value))

def sign (u : Usage) (argument : String) : Sign :=
  match argument.toList with
  | ['-', '-'] => .terminator
  | '-' :: '-' :: cs => readLong u argument cs
  | '-' :: c :: cs => readShort u argument c cs
  | _ => .fault (.unexpected argument)

/-- Reads arguments from left to right behind what was given already. -/
def parseFrom (u : Usage) (given : Table String String) : List String → Arguments
  | [] => .values given
  | argument :: rest =>
    match sign u argument with
    | .help => .help
    | .fault f => .refused f
    | .terminator =>
      match rest with
      | [] => .values given
      | extra :: _ => .refused (.unexpected extra)
    | .switch s attached =>
      match attached, rest with
      | some value, rest =>
        if given.contains s.long then .refused (.repeated s)
        else parseFrom u (given.insert s.long value) rest
      | none, value :: rest =>
        if looksLikeSwitch value then .refused (.missingValue s)
        else if given.contains s.long then .refused (.repeated s)
        else parseFrom u (given.insert s.long value) rest
      | none, [] => .refused (.missingValue s)

def parse (u : Usage) (arguments : List String) : Arguments := parseFrom u ∅ arguments

end Arguments

namespace Usage

def line (u : Usage) : String := "Usage: " ++ u.program ++ " [OPTIONS]"

def names (s : Switch) : String :=
  let short := match s.short with
    | some c => String.ofList ['-', c, ',', ' ']
    | none => "    "
  short ++ "--" ++ s.long ++ " <" ++ s.value ++ ">"

def entries (u : Usage) : List (String × String) :=
  u.switches.map (fun s => (names s, s.help)) ++ [("-h, --help", "Print help")]

/-- The help, with what the switches mean in one column. -/
def help (u : Usage) : String :=
  let width := (u.entries.map fun (names, _) => names.length).foldl max 0
  let lines := u.entries.map fun (names, meaning) =>
    "  " ++ names ++ String.ofList (List.replicate (width + 2 - names.length) ' ') ++ meaning ++ "\n"
  u.line ++ "\n\nOptions:\n" ++ String.join lines

def complaint (u : Usage) (fault : ArgumentFault) : String :=
  let hint := "\nFor more information, try '--help'.\n"
  let withUsage (text : String) := "error: " ++ text ++ "\n\n" ++ u.line ++ "\n" ++ hint
  let quoted (s : Switch) := "'--" ++ s.long ++ " <" ++ s.value ++ ">'"
  match fault with
  | .unexpected argument => withUsage ("unexpected argument '" ++ argument ++ "' found")
  | .missingValue s =>
    "error: a value is required for " ++ quoted s ++ " but none was supplied\n" ++ hint
  | .repeated s => withUsage ("the argument " ++ quoted s ++ " cannot be used multiple times")
  | .unexpectedValue value =>
    withUsage ("unexpected value '" ++ value ++ "' for '--help' found; no more were expected")

end Usage

end ServiceWatch.CommandLine
