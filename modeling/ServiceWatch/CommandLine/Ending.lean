import ServiceWatch.Text.Decimal
import ServiceWatch.Text.Split

/-! How programs end. -/
namespace ServiceWatch.CommandLine

/-- The exit code of a program, and its last words on the two outputs. -/
structure Ending where
  exit : Nat
  output : String := ""
  complaint : String := ""
  deriving DecidableEq

namespace Ending

def success : Ending := { exit := 0 }

/-- A text whose first line starts with `first` and whose other lines start with `next`. -/
def indented (first next : String) (text : String) : String :=
  first ++ ("\n" ++ next).intercalate ((Text.split '\n' text.toList).map String.ofList)

/-- A number in a column of five. -/
def column (n : Nat) : String :=
  let digits := Text.Decimal.text n
  String.ofList (List.replicate (5 - digits.length) ' ') ++ digits

/-- The causes of an error in the order of their depth; several ones are numbered. -/
def causes : List String → String
  | [] => ""
  | [cause] => "\n\nCaused by:\n" ++ indented "    " "    " cause
  | several =>
    "\n\nCaused by:\n" ++ "\n".intercalate
      (several.zipIdx.map fun (cause, n) => indented (column n ++ ": ") "       " cause)

def error (message : String) (sources : List String := []) : Ending where
  exit := 1
  complaint := "Error: " ++ message ++ causes sources ++ "\n"

end Ending

end ServiceWatch.CommandLine
