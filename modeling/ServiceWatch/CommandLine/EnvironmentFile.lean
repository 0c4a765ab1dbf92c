import ServiceWatch.CommandLine.Environment
import ServiceWatch.Text.Blank
import ServiceWatch.Text.Lines
import ServiceWatch.Text.Utf8
import ServiceWatch.Unicode.Letter

/-!
Files that add variables to the environment, one `NAME=value` a line. A variable that is set already
keeps its value, and nothing is taken from a line with a fault or from the lines behind it.
-/
namespace ServiceWatch.CommandLine.EnvironmentFile

open ServiceWatch.Text

/-- A name starts with a letter of ASCII or an underscore. -/
def isNameStart (c : Char) : Bool := c.isAlpha || c = '_'

/-- A name goes on with letters and digits of ASCII, underscores and points. -/
def isNamePart (c : Char) : Bool := c.isAlphanum || c = '_' || c = '.'

/-- Letters and digits of all scripts. -/
def isAlphanumeric (c : Char) : Bool := Unicode.isLetter c || Unicode.isNumeral c

/-- What a dollar sign stands before. -/
inductive Reference where
  /-- Letters and digits name a variable. -/
  | bare (name : List Char)
  /-- Everything up to a closing brace names a variable. -/
  | braced (name : List Char)

/-- What the next character of a value is part of. -/
inductive Mode where
  | plain
  /-- Within single quotes. -/
  | strong
  /-- Within double quotes. -/
  | weak
  /-- Behind a backslash, outside or inside double quotes. -/
  | escaped (quoted : Bool)
  /-- Behind a dollar sign, outside or inside double quotes; the name is in reverse. -/
  | reference (quoted : Bool) (r : Reference)
  /-- Behind the end of the value. -/
  | ended

/-- What stands behind a name and an equals sign in the first of some texts that starts like that. -/
def behindName? (name : List Char) : List (List Char) → Option (List Char)
  | [] => none
  | text :: texts =>
    if (name ++ ['=']).isPrefixOf text then some (text.drop (name.length + 1)) else behindName? name texts

/-- The value of a variable in reverse; a variable that is not set has none. A name may reach beyond an
equals sign into what another variable holds. -/
def valueOf (env : Environment) (reversedName : List Char) : List Char :=
  let name := reversedName.reverse
  if name.isEmpty then []
  else
    let texts := env.entries.map fun (n, value) => n.toList ++ '=' :: value.toList
    ((behindName? name texts).getD []).reverse

def Mode.within (quoted : Bool) : Mode := if quoted then .weak else .plain

def isEscapable (c : Char) : Bool :=
  c = '\\' || c = '\'' || c = '"' || c = '$' || c = ' '

/-- Reads a value; `out` holds what was read so far, in reverse. -/
def readValue (env : Environment) : Mode → List Char → List Char → Option (List Char)
  | mode, out, [] =>
    match mode with
    | .plain | .ended | .escaped false => some out.reverse
    | .reference false (.bare name) => some (valueOf env name ++ out).reverse
    | _ => none
  | mode, out, c :: cs =>
    match mode with
    | .ended =>
      if c = ' ' ∨ c = '\t' then readValue env .ended out cs
      else if c = '#' then some out.reverse
      else none
    | .escaped quoted =>
      if isEscapable c then readValue env (.within quoted) (c :: out) cs
      else if c = 'n' then readValue env (.within quoted) ('\n' :: out) cs
      else none
    | .strong =>
      if c = '\'' then readValue env .plain out cs else readValue env .strong (c :: out) cs
    | .reference quoted (.bare name) =>
      if isAlphanumeric c then readValue env (.reference quoted (.bare (c :: name))) out cs
      else if c = '\x7b' ∧ name = [] then readValue env (.reference quoted (.braced [])) out cs
      else
        let out := valueOf env name ++ out
        if c = '$' then readValue env (.reference quoted (.bare [])) out cs
        else readValue env (.within quoted) (c :: out) cs
    | .reference quoted (.braced name) =>
      if c = '\x7d' then readValue env (.within quoted) (valueOf env name ++ out) cs
      else readValue env (.reference quoted (.braced (c :: name))) out cs
    | .weak =>
      if c = '$' then readValue env (.reference true (.bare [])) out cs
      else if c = '"' then readValue env .plain out cs
      else if c = '\\' then readValue env (.escaped true) out cs
      else readValue env .weak (c :: out) cs
    | .plain =>
      if c = '$' then readValue env (.reference false (.bare [])) out cs
      else if c = '\'' then readValue env .strong out cs
      else if c = '"' then readValue env .weak out cs
      else if c = '\\' then readValue env (.escaped false) out cs
      else if c = ' ' ∨ c = '\t' then readValue env .ended out cs
      else readValue env .plain (c :: out) cs

def readName : List Char → Option (List Char × List Char)
  | [] => none
  | c :: cs => if isNameStart c then some ((c :: cs).span isNamePart) else none

def readEquals : List Char → Option (List Char)
  | '=' :: cs => some cs
  | _ => none

/-- The name at the start of a line, and what is behind the equals sign; `export` may come first. -/
def readAssignment (cs : List Char) : Option (List Char × List Char) := do
  let (name, rest) ← readName cs
  match readEquals (trimLeft rest) with
  | some value => return (name, value)
  | none =>
    if name ≠ "export".toList then none
    let (name, rest) ← readName (trimLeft rest)
    return (name, ← readEquals (trimLeft rest))

/-- There is nothing to read any more but a comment. -/
def isVoid : List Char → Bool
  | [] => true
  | c :: _ => c = '#'

/-- Reads a line: the variable and its value, or nothing if the line is empty or a comment. -/
def readLine (env : Environment) (line : List Char) : Option (Option (String × String)) :=
  let cs := trim line
  if isVoid cs then some none
  else do
    let (name, value) ← readAssignment cs
    let value := trimLeft value
    let text ← if isVoid value then some [] else readValue env .plain [] value
    return some (String.ofList name, String.ofList text)

/-- A value that holds a NUL cannot be given to a variable. -/
structure Unsettable where
  name : String
  value : String

/-- The environment with a variable that a line asks for, unless it is set already. -/
def assign (env : Environment) (name value : String) : Except Unsettable Environment :=
  if env.contains name then .ok env
  else if value.toList.contains (Char.ofNat 0) then .error ⟨name, value⟩
  else .ok (env.insert name value)

def loadLines (env : Environment) : List (List UInt8) → Except Unsettable Environment
  | [] => .ok env
  | line :: rest =>
    match Utf8.decode line with
    | .error _ => .ok env
    | .ok cs =>
      match readLine env (withoutEnd cs) with
      | none => .ok env
      | some none => loadLines env rest
      | some (some (name, value)) => do loadLines (← assign env name value) rest

def load (env : Environment) (bytes : List UInt8) : Except Unsettable Environment :=
  loadLines env (lines bytes)

end ServiceWatch.CommandLine.EnvironmentFile
