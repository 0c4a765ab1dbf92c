import ServiceWatch.Text.Decimal

/-! The fewest decimal digits that read back as a given double. -/
namespace ServiceWatch.Decimal

/-- A finite positive double as `4 * mantissa` units of `2 ^ scale`, so that the halves of its gaps are whole. -/
structure Binary where
  mantissa : Nat
  scale : Int
  /-- The gap below is half as wide as the one above. -/
  narrowBelow : Bool

def hiddenBit : Nat := 0x10000000000000

def signBit : Nat := 0x8000000000000000

/-- The parts of a positive double with the given bits. -/
def Binary.ofBits (bits : Nat) : Binary :=
  let fraction : Nat := bits % hiddenBit
  let exponent : Nat := bits / hiddenBit % 2048
  if exponent = 0 then ⟨fraction, -1076, false⟩
  else ⟨hiddenBit + fraction, (exponent : Int) - 1077, fraction = 0 && 1 < exponent⟩

/-- Three numbers over one denominator: the value and the ends of the interval that rounds to it. -/
structure Interval where
  low : Nat
  value : Nat
  high : Nat
  unit : Nat
  /-- The ends belong to the interval. -/
  closed : Bool

/-- The reals that round to a double; its ends belong to it when the mantissa is even. -/
def Binary.interval (b : Binary) : Interval :=
  let low := 4 * b.mantissa - (if b.narrowBelow then 1 else 2)
  let value := 4 * b.mantissa
  let high := 4 * b.mantissa + 2
  let closed := b.mantissa % 2 = 0
  match b.scale with
  | .ofNat s => ⟨low * Nat.pow 2 s, value * Nat.pow 2 s, high * Nat.pow 2 s, 1, closed⟩
  | .negSucc s => ⟨low, value, high, Nat.pow 2 (s + 1), closed⟩

def Interval.scale (i : Interval) : Int → Interval
  | .ofNat e =>
    let factor := Nat.pow 10 e
    { i with low := i.low * factor, value := i.value * factor, high := i.high * factor }
  | .negSucc e => { i with unit := i.unit * Nat.pow 10 (e + 1) }

def Interval.contains (i : Interval) (n : Nat) : Bool :=
  if i.closed then i.low ≤ n * i.unit && n * i.unit ≤ i.high
  else i.low < n * i.unit && n * i.unit < i.high

/-- The whole number in the interval that is nearest to its value, among the value's two neighbours. -/
def Interval.nearest? (i : Interval) : Option Nat :=
  let below := i.value / i.unit
  let above := below + 1
  match i.contains below, i.contains above with
  | false, false => none
  | true, false => some below
  | false, true => some above
  | true, true =>
    let down := i.value - below * i.unit
    let up := above * i.unit - i.value
    if down < up || (down = up && below % 2 = 0) then some below else some above

/-- The position of the leading digit: the least `e` with `value < 10 ^ (e + 1)`, tried from `e` upwards. -/
def Interval.magnitude (i : Interval) : Nat → Int → Int
  | 0, e => e
  | fuel + 1, e =>
    let j := i.scale (-(e + 1))
    if j.value < j.unit then e else magnitude i fuel (e + 1)

/-- A decimal number: its digits without trailing zeros, and the position of the first of them. -/
structure Digits where
  digits : List Char
  exponent : Int

/-- Tries ever finer grids below the leading digit until one has a point in the interval. -/
def Interval.search (i : Interval) (lead : Int) : Nat → Nat → Option (Nat × Int)
  | 0, _ => none
  | fuel + 1, places =>
    let grid := lead - places
    match (i.scale (-grid)).nearest? with
    | some n => some (n, grid)
    | none => search i lead fuel (places + 1)

/-- The shortest digits of a positive finite double; of those, the nearest to it. -/
def shortest (bits : Nat) : Digits :=
  let i := (Binary.ofBits bits).interval
  let lead := i.magnitude 640 (-325)
  match i.search lead 18 0 with
  | none => ⟨['0'], 0⟩
  | some (n, grid) =>
    let ds := Text.Decimal.digits n
    let kept := (ds.reverse.dropWhile (· = '0')).reverse
    ⟨kept, grid + ds.length - 1⟩

/-- Which exponents are written positionally. -/
structure Notation where
  least : Int
  greatest : Int

def positional (d : Digits) : List Char :=
  match d.exponent with
  | .negSucc e => '0' :: '.' :: (List.replicate e '0' ++ d.digits)
  | .ofNat e =>
    let whole := d.digits.take (e + 1) ++ List.replicate (e + 1 - d.digits.length) '0'
    let fraction := d.digits.drop (e + 1)
    whole ++ '.' :: (if fraction.isEmpty then ['0'] else fraction)

def scientific (d : Digits) : List Char :=
  let fraction := d.digits.drop 1
  let mantissa := d.digits.take 1 ++ (if fraction.isEmpty then [] else '.' :: fraction)
  mantissa ++ 'e' ::
    match d.exponent with
    | .ofNat e => '+' :: Text.Decimal.digits e
    | .negSucc e => '-' :: Text.Decimal.digits (e + 1)

/-- Numbers are written positionally from five zeros behind the point up to sixteen whole digits. -/
def numberNotation : Notation := ⟨-5, 15⟩

/-- The text of a finite double: always with a point or an exponent. -/
def text (x : Float) : String :=
  let bits := x.toBits.toNat
  let negative := bits / signBit = 1
  let magnitude := bits % signBit
  let body :=
    if magnitude = 0 then ['0', '.', '0']
    else
      let d := shortest magnitude
      if numberNotation.least ≤ d.exponent ∧ d.exponent ≤ numberNotation.greatest then positional d
      else scientific d
  String.ofList (if negative then '-' :: body else body)

end ServiceWatch.Decimal
