import ServiceWatch.Files.FilePath
import ServiceWatch.Text.Utf8

/-! What programs need of a file system. -/
namespace ServiceWatch.Files

inductive Fault where
  | notFound
  | notDirectory
  | isDirectory
  | alreadyExists
  | nameTooLong
  /-- A path holds a NUL, at which it would end. -/
  | nulByte
  | notText
  | other (message : String)
  deriving DecidableEq

def Fault.message : Fault → String
  | notFound => "No such file or directory (os error 2)"
  | notDirectory => "Not a directory (os error 20)"
  | isDirectory => "Is a directory (os error 21)"
  | alreadyExists => "File exists (os error 17)"
  | nameTooLong => "File name too long (os error 36)"
  | nulByte => "file name contained an unexpected NUL byte"
  | notText => "stream did not contain valid UTF-8"
  | other message => message

structure FileSystem (m : Type → Type) where
  /-- There is a file or a directory. -/
  contains : FilePath → m Bool
  read : FilePath → m (Except Fault (List UInt8))
  /-- Creates a directory and those on the way to it, where they are missing. -/
  createDirectories : FilePath → m (Except Fault Unit)
  /-- Replaces what a file holds. -/
  write : FilePath → List UInt8 → m (Except Fault Unit)

def FileSystem.readText {m : Type → Type} [Monad m] (fs : FileSystem m) (p : FilePath) :
    m (Except Fault (List Char)) := do
  match ← fs.read p with
  | .error fault => return .error fault
  | .ok bytes =>
    match Text.Utf8.decode bytes with
    | .error _ => return .error .notText
    | .ok cs => return .ok cs

end ServiceWatch.Files
