import ServiceWatch.Files.FileSystem

/-! The file system of the machine. -/
namespace ServiceWatch.Machine

open ServiceWatch.Files (Fault FileSystem)

def numbered? : IO.Error → Option (UInt32 × String)
  | .alreadyExists _ code words | .otherError code words | .resourceBusy code words
  | .resourceVanished code words | .unsupportedOperation code words | .hardwareFault code words
  | .unsatisfiedConstraints code words | .illegalOperation code words | .protocolError code words
  | .timeExpired code words | .interrupted _ code words | .noFileOrDirectory _ code words
  | .invalidArgument _ code words | .permissionDenied _ code words
  | .resourceExhausted _ code words | .inappropriateType _ code words | .noSuchThing _ code words =>
    some (code, words)
  | .unexpectedEof | .userError _ => none

def faultOf (e : IO.Error) : Fault :=
  match numbered? e with
  | some (2, _) => .notFound
  | some (17, _) => .alreadyExists
  | some (20, _) => .notDirectory
  | some (21, _) => .isDirectory
  | some (36, _) => .nameTooLong
  | some (code, words) => .other (words ++ " (os error " ++ Text.Decimal.text code.toNat ++ ")")
  | none => .other (toString e)

def attempt {α : Type} (operation : IO α) : IO (Except Fault α) := do
  match ← operation.toBaseIO with
  | .ok a => return .ok a
  | .error e => return .error (faultOf e)

def files : FileSystem IO where
  contains p := return (← attempt (IO.FS.realPath p.text)).toBool
  read p := attempt do return (← IO.FS.readBinFile p.text).toList
  createDirectories p := attempt (IO.FS.createDirAll p.text)
  write p bytes := attempt (IO.FS.writeBinFile p.text (ByteArray.mk bytes.toArray))

end ServiceWatch.Machine
