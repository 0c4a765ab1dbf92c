import ServiceWatch.Data.Table
import ServiceWatch.Files.FileSystem

/-!
A file system as a value: directories and files by their places. A place is told by the names on the
way from the root to it, each behind a slash; the root itself is told by the empty text.
-/
namespace ServiceWatch.Files

inductive Node where
  | file (bytes : List UInt8)
  | directory
  deriving DecidableEq

/-- The nodes by their places, and the place of the directory in which relative paths start. -/
structure Disk where
  nodes : Table String Node
  working : String

namespace Disk

def child (place name : String) : String := place ++ "/" ++ name

/-- The place of the directory around a place; around the root there is only itself. -/
def around (place : String) : String :=
  String.ofList ((place.toList.reverse.dropWhile (· ≠ '/')).drop 1).reverse

/-- A disk with an empty directory, in which relative paths start. -/
def atDirectory (names : List String) : Disk where
  nodes := .ofList ((List.range names.length).map fun n =>
    ((names.take (n + 1)).foldl child "", .directory))
  working := names.foldl child ""

/-- What stands at a place; the root is always a directory. -/
def node? (d : Disk) (place : String) : Option Node :=
  if place = "" then some .directory else d.nodes.get? place

/-- The most bytes that a name can have. -/
def nameLimit : Nat := 255

/-- A path has to have fewer bytes than this. -/
def pathLimit : Nat := 4096

/-- Follows a path from a directory, piece by piece. What has something other than slashes behind it has
to be a directory. -/
def follow (d : Disk) (place : String) : List String → Except Fault String
  | [] => .ok place
  | name :: rest =>
    if name = "" ∨ name = "." then d.follow place rest
    else if name = ".." then d.follow (around place) rest
    else if nameLimit < name.utf8ByteSize then .error .nameTooLong
    else if rest.all (· = "") then .ok (child place name)
    else
      match d.node? (child place name) with
      | some .directory => d.follow (child place name) rest
      | some (.file _) => .error .notDirectory
      | none => .error .notFound

/-- The directory in which a path starts. Some texts are no paths at all. -/
def start (d : Disk) (p : FilePath) : Except Fault String :=
  if p.text = "" then .error .notFound
  else if p.text.toList.contains (Char.ofNat 0) then .error .nulByte
  else if pathLimit ≤ p.text.utf8ByteSize then .error .nameTooLong
  else .ok (if p.isAbsolute then "" else d.working)

def resolve (d : Disk) (p : FilePath) : Except Fault String := do d.follow (← d.start p) p.pieces

def find (d : Disk) (p : FilePath) : Except Fault Node := do
  match d.node? (← d.resolve p) with
  | none => .error .notFound
  | some .directory => return .directory
  | some (.file bytes) => if p.asksForDirectory then .error .notDirectory else return .file bytes

def contains (d : Disk) (p : FilePath) : Bool := (d.find p).toBool

def read (d : Disk) (p : FilePath) : Except Fault (List UInt8) := do
  match ← d.find p with
  | .file bytes => return bytes
  | .directory => .error .isDirectory

/-- Creates the directories at names behind a place, up to one that cannot be created. -/
def createFrom (d : Disk) (place : String) : List String → Except Fault Unit × Disk
  | [] => (.ok (), d)
  | name :: rest =>
    if name = "." then d.createFrom place rest
    else if name = ".." then d.createFrom (around place) rest
    else if nameLimit < name.utf8ByteSize then (.error .nameTooLong, d)
    else
      match d.node? (child place name) with
      | some .directory => d.createFrom (child place name) rest
      | some (.file _) => (.error (if rest = [] then .alreadyExists else .notDirectory), d)
      | none =>
        { d with nodes := d.nodes.insert (child place name) .directory }.createFrom (child place name) rest

/-- Creates a directory and those on the way to it, where they are missing. -/
def createDirectories (p : FilePath) (d : Disk) : Except Fault Unit × Disk :=
  match d.start p with
  | .ok place => d.createFrom place p.names
  | .error fault => (.error fault, d)

/-- Replaces what a file holds; its directory has to exist. -/
def write (d : Disk) (p : FilePath) (bytes : List UInt8) : Except Fault Disk := do
  let place ← d.resolve p
  match d.node? place with
  | some .directory => .error .isDirectory
  | some (.file _) =>
    if p.asksForDirectory then .error .notDirectory
    else return { d with nodes := d.nodes.insert place (.file bytes) }
  | none =>
    if p.asksForDirectory then .error .isDirectory
    else return { d with nodes := d.nodes.insert place (.file bytes) }

def delete (d : Disk) (p : FilePath) : Except Fault Disk := do
  discard (d.read p)
  return { d with nodes := d.nodes.erase (← d.resolve p) }

/-- The files in the directory where relative paths start, each with its path from there. -/
def files (d : Disk) : List (String × List UInt8) :=
  let inside := (d.working ++ "/").toList
  d.nodes.entries.filterMap fun (place, node) =>
    match node with
    | .file bytes =>
      if inside.isPrefixOf place.toList then
        some (String.ofList (place.toList.drop inside.length), bytes)
      else none
    | .directory => none

/-- Writing as a step on a disk, which a refusal leaves as it is. -/
def writeStep (p : FilePath) (bytes : List UInt8) (d : Disk) : Except Fault Unit × Disk :=
  match d.write p bytes with
  | .ok d => (.ok (), d)
  | .error fault => (.error fault, d)

def fileSystem : FileSystem (StateM Disk) where
  contains p := return (← get).contains p
  read p := return (← get).read p
  createDirectories p := createDirectories p
  write p bytes := writeStep p bytes

end Disk

end ServiceWatch.Files
