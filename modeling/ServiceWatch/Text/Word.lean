import ServiceWatch.Text.Decimal

/-! Numbers of sixteen bits in decimal: digits with an optional plus sign in front of them. -/
namespace ServiceWatch.Text.Word

inductive Fault where
  | empty
  | invalidDigit
  | tooLarge
  deriving DecidableEq

def Fault.message : Fault → String
  | empty => "cannot parse integer from empty string"
  | invalidDigit => "invalid digit found in string"
  | tooLarge => "number too large to fit in target type"

/-- Reads digits from left to right behind the value of those before them; the first fault counts. -/
def readDigits (value : Nat) : List Char → Except Fault Nat
  | [] => .ok value
  | c :: cs =>
    if !c.isDigit then .error .invalidDigit
    else
      let next : Nat := value * 10 + Decimal.digitValue c
      if next < 65536 then readDigits next cs else .error .tooLarge

/-- Reads a number; a plus sign needs a digit behind it. -/
def read (cs : List Char) : Except Fault UInt16 :=
  match cs with
  | [] => .error .empty
  | ['+'] => .error .invalidDigit
  | '+' :: rest => (readDigits 0 rest).map Nat.toUInt16
  | _ => (readDigits 0 cs).map Nat.toUInt16

end ServiceWatch.Text.Word
