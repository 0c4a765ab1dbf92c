import ServiceWatch.Files.FileSystem
import ServiceWatch.Json.Decode
import ServiceWatch.Json.Writer
import ServiceWatch.Poller.Lifecycle

/-! Where a poller keeps the identity that the backend gave to it. -/
namespace ServiceWatch.Poller

open ServiceWatch.Files (FileSystem FilePath)

structure IdentityStore (m : Type → Type) where
  load : m (Except IdentityFault (Option String))
  save : String → m (Except Failure Unit)

/-- A place that forgets the identity when the program ends. -/
def IdentityStore.inMemory : IdentityStore (StateM (Option String)) where
  load := return .ok (← get)
  save id := do set (some id); return .ok ()

namespace IdentityFile

def toJson (id : String) : Json := .record [("monitoring_system_id", .ofString id)]

def decode : Json.Decoder (Option String) :=
  (Json.Shape.optional "monitoring_system_id" Json.decodeString).decode "struct SettingsFile"

def render (id : String) : List UInt8 := (toJson id).pretty.toUTF8.toList

/-- A failure of the file system, and what was being done. -/
def refused {α : Type} (what : String) : Except Files.Fault α → Except Failure α
  | .ok a => .ok a
  | .error fault => .error ⟨fault.message, [what]⟩

def parse (p : FilePath) (text : List Char) : Except Failure (Option String) :=
  match Json.decodeText decode text with
  | .ok id => .ok id
  | .error e => .error ⟨e.message, ["failed to parse settings file " ++ p.text]⟩

variable {m : Type → Type} [Monad m]

/-- The identity in a file. Where there is no file, there is no identity. -/
def load (fs : FileSystem m) (p : FilePath) : m (Except Failure (Option String)) := do
  if ← fs.contains p then
    let text ← fs.readText p
    return refused ("failed to read settings file " ++ p.text) text >>= parse p
  else return .ok none

/-- Creates the directory of a file, if the path names one. -/
def createParent (fs : FileSystem m) (p : FilePath) : m (Except Failure Unit) := do
  match p.parent? with
  | none => return .ok ()
  | some parent =>
    if parent.text = "" then return .ok ()
    else return refused ("failed to create " ++ parent.text) (← fs.createDirectories parent)

def save (fs : FileSystem m) (p : FilePath) (id : String) : m (Except Failure Unit) := do
  match ← createParent fs p with
  | .error failure => return .error failure
  | .ok () => return refused ("failed to write settings file " ++ p.text) (← fs.write p (render id))

end IdentityFile

def IdentityStore.inFile {m : Type → Type} [Monad m] (fs : FileSystem m) (p : FilePath) :
    IdentityStore m where
  load := (·.mapError .unreadable) <$> IdentityFile.load fs p
  save := IdentityFile.save fs p

end ServiceWatch.Poller
