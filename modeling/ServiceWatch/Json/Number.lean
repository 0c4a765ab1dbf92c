import ServiceWatch.Json.Basic
import ServiceWatch.Text.Decimal

/-! The values of number literals: 64-bit integers, and doubles for all others. -/
namespace ServiceWatch.Json

open ServiceWatch.Text

inductive Number where
  | natural (n : Nat)
  | negative (n : Nat)
  | double (x : Float)

namespace NumberText

/-- Takes digits into `sig` as long as it stays within 64 bits. -/
def takeDigits (sig : Nat) : List Char → Nat × List Char
  | [] => (sig, [])
  | d :: ds =>
    let next := 10 * sig + Decimal.digitValue d
    if next < UInt64.size then takeDigits next ds else (sig, d :: ds)

/-- `x` scaled by a power of ten, in steps that have a finite power; `none` if it overflows. -/
def scale : Nat → Float → Int → Option Float
  | 0, x, _ => some x
  | _ + 1, x, .ofNat e =>
    if e ≤ 308 then
      let y := x * Float.ofScientific 1 false e
      if y.isInf then none else some y
    else if x == 0 then some x else none
  | fuel + 1, x, .negSucc e =>
    if e < 308 then some (x / Float.ofScientific 1 false (e + 1))
    else if x == 0 then some x
    else scale fuel (x / Float.ofScientific 1 false 308) (.negSucc e + 308)

/-- The double for `sig` times a power of ten, which is `none` beyond the largest double. -/
def toDouble (negative : Bool) (sig : Nat) (exponent : Int) : Option Float :=
  (scale 4 (UInt64.ofNat sig).toFloat exponent).map fun x => if negative then -x else x

/-- The largest exponent that is still looked at. -/
def exponentLimit : Nat := 0x7FFFFFFF

def withExponent (negative : Bool) (sig : Nat) (start : Int) : Option (Bool × List Char) → Option Float
  | none => toDouble negative sig start
  | some (minus, ds) =>
    let e := Decimal.value ds
    if e ≤ exponentLimit then toDouble negative sig (if minus then start - e else start + e)
    else if sig ≠ 0 ∧ !minus then none
    else some (if negative then -0.0 else 0.0)

/--
The value of a literal, or `none` if it lies beyond the doubles.

A literal without fraction and exponent is an integer if 64 bits hold it and it is not `-0`. Of
the other literals as many digits count as fit into 64 bits: further whole digits only raise the
exponent, further fraction digits are dropped.
-/
def value (n : NumberText) : Option Number :=
  let (sig, more) := takeDigits 0 n.whole
  match n.fraction, n.exponent with
  | none, none =>
    if more.isEmpty then
      if !n.negative then some (.natural sig)
      else if sig ≠ 0 ∧ sig ≤ 0x8000000000000000 then some (.negative sig)
      else some (.double (-(UInt64.ofNat sig).toFloat))
    else (toDouble n.negative sig more.length).map .double
  | none, exponent => (withExponent n.negative sig more.length exponent).map .double
  | some fraction, exponent =>
    let (sig, dropped) := takeDigits sig fraction
    let start : Int := (more.length : Int) - ((fraction.length : Int) - dropped.length)
    (withExponent n.negative sig start exponent).map .double

end NumberText

end ServiceWatch.Json
