import ServiceWatch.Text.Split

/-! Paths of files: names between slashes. -/
namespace ServiceWatch.Files

structure FilePath where
  text : String
  deriving DecidableEq

namespace FilePath

def isAbsolute (p : FilePath) : Bool := p.text.toList.head? = some '/'

/-- A path with a slash at its end can only be that of a directory. -/
def asksForDirectory (p : FilePath) : Bool := p.text.toList.getLast? = some '/'

def pieces (p : FilePath) : List String := (Text.split '/' p.text.toList).map String.ofList

/-- The names on the way along a path, each with its number among the pieces. Nothing is no name, and
a point is one only at the start. -/
def steps (p : FilePath) : List (String × Nat) :=
  p.pieces.zipIdx.filter fun (name, i) => name ≠ "" && (name ≠ "." || i = 0)

def names (p : FilePath) : List String := p.steps.map Prod.fst

/-- The path without its last name, if it has a name. -/
def parent? (p : FilePath) : Option FilePath :=
  match p.steps.reverse with
  | [] => none
  | [_] => some ⟨if p.isAbsolute then "/" else ""⟩
  | _ :: (_, i) :: _ => some ⟨"/".intercalate (p.pieces.take (i + 1))⟩

/-- A path that starts at a directory, unless it is absolute. -/
def join (directory : FilePath) (p : String) : FilePath :=
  if FilePath.isAbsolute ⟨p⟩ ∨ directory.text = "" then ⟨p⟩
  else if directory.asksForDirectory then ⟨directory.text ++ p⟩
  else ⟨directory.text ++ "/" ++ p⟩

/-- An absolute directory and all those around it, up to the root. -/
def ancestors (p : FilePath) : List FilePath :=
  (List.range (p.names.length + 1)).reverse.map fun n => ⟨"/" ++ "/".intercalate (p.names.take n)⟩

end FilePath

end ServiceWatch.Files
