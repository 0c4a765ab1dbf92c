/-! Natural numbers as decimal digits: the written form has no leading zeros. -/
namespace ServiceWatch.Text.Decimal

def digitChar (d : Nat) : Char := Char.ofNat (48 + d)

def digitValue (c : Char) : Nat := c.toNat - 48

/-- The digits of `n`, most significant first. -/
def digits (n : Nat) : List Char :=
  if n < 10 then [digitChar n] else digits (n / 10) ++ [digitChar (n % 10)]
termination_by n
decreasing_by omega

/-- The digits of `n`, filled up with zeros on the left to at least `width` characters. -/
def padded (width n : Nat) : List Char :=
  let ds := digits n
  List.replicate (width - ds.length) '0' ++ ds

/-- The number that a digit sequence stands for, continuing from `start`. -/
def valueFrom (start : Nat) (ds : List Char) : Nat :=
  ds.foldl (fun n c => 10 * n + digitValue c) start

def value (ds : List Char) : Nat := valueFrom 0 ds

def signed : Int → List Char
  | .ofNat n => digits n
  | .negSucc n => '-' :: digits (n + 1)

def text (n : Nat) : String := String.ofList (digits n)

end ServiceWatch.Text.Decimal
