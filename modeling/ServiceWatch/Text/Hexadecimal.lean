/-! Natural numbers as hexadecimal digits in lower case. -/
namespace ServiceWatch.Text.Hexadecimal

/-- The lower-case character of a digit below sixteen. -/
def digitChar (d : Nat) : Char :=
  if d < 10 then Char.ofNat (48 + d) else Char.ofNat (87 + d)

/-- The value of a hexadecimal digit of either case. -/
def digitValue? (c : Char) : Option Nat :=
  if '0' ≤ c ∧ c ≤ '9' then some (c.toNat - 48)
  else if 'a' ≤ c ∧ c ≤ 'f' then some (c.toNat - 87)
  else if 'A' ≤ c ∧ c ≤ 'F' then some (c.toNat - 55)
  else none

def digits (n : Nat) : List Char :=
  if n < 16 then [digitChar n] else digits (n / 16) ++ [digitChar (n % 16)]
termination_by n
decreasing_by omega

/-- The digits of `n`, filled up with zeros on the left to at least `width` characters. -/
def padded (width n : Nat) : List Char :=
  let ds := digits n
  List.replicate (width - ds.length) '0' ++ ds

def value? (ds : List Char) : Option Nat :=
  ds.foldlM (fun n c => (digitValue? c).map (16 * n + ·)) 0

end ServiceWatch.Text.Hexadecimal
