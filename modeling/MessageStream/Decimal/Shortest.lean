/-!
Shortest decimals: the fewest digits that lie nearer to a floating-point value than to any other.

A finite value is a natural number of units of a power of two, and it is the nearest one for every
real in an interval around it. For one digit, two digits and so on, the two neighbours of the value
on the grid of that many digits are tried against the interval, in exact arithmetic; the first grid
with a hit has the shortest decimals, and of two hits the nearer one is taken, of two equally near
the even one.
-/
namespace MessageStream.Decimal

/-- A positive value `mantissa * 2 ^ exponent`. At a power of two the values below lie twice as
close. -/
structure Binary where
  mantissa : Nat
  exponent : Int
  closeBelow : Bool
  deriving Repr

structure Numeral where
  digits : Nat
  exponent : Int
  deriving Repr, DecidableEq

/-- A value over a common denominator, with the ends of its interval. The ends belong to it if
`closed`. -/
structure Interval where
  low : Nat
  value : Nat
  high : Nat
  denominator : Nat
  closed : Bool

def Binary.interval (binary : Binary) : Interval :=
  let scale := Nat.pow 2 (binary.exponent - 2).toNat
  { low := (4 * binary.mantissa - if binary.closeBelow then 1 else 2) * scale
    value := 4 * binary.mantissa * scale
    high := (4 * binary.mantissa + 2) * scale
    denominator := Nat.pow 2 (2 - binary.exponent).toNat
    closed := binary.mantissa % 2 == 0 }

def Interval.rescale (interval : Interval) (power : Int) : Interval :=
  let scale := Nat.pow 10 (-power).toNat
  { low := interval.low * scale
    value := interval.value * scale
    high := interval.high * scale
    denominator := interval.denominator * Nat.pow 10 power.toNat
    closed := interval.closed }

def Interval.contains (interval : Interval) (units : Nat) : Bool :=
  let point := units * interval.denominator
  if interval.closed then interval.low ≤ point && point ≤ interval.high
  else interval.low < point && point < interval.high

/-- The whole number of units in the interval that is nearest to the value, of the two next to
it. -/
def Interval.nearest? (interval : Interval) : Option Nat :=
  let below := interval.value / interval.denominator
  let above := below + 1
  match interval.contains below && below != 0, interval.contains above with
  | false, false => none
  | true, false => some below
  | false, true => some above
  | true, true =>
    let toBelow := interval.value - below * interval.denominator
    let toAbove := above * interval.denominator - interval.value
    if toBelow < toAbove then some below
    else if toAbove < toBelow then some above
    else if below % 2 = 0 then some below
    else some above

def digitCount (number : Nat) : Nat := (Nat.toDigits 10 number).length

def Interval.magnitude (interval : Interval) : Int :=
  if interval.denominator ≤ interval.value then digitCount (interval.value / interval.denominator)
  else 1 - (digitCount (interval.denominator / interval.value) : Int)

/-- Tries grids of ever more digits, from the given power of ten downwards. -/
def Interval.search (interval : Interval) : Nat → Int → Numeral
  | 0, power => ⟨(interval.rescale power).value / (interval.rescale power).denominator, power⟩
  | tries + 1, power =>
    match (interval.rescale power).nearest? with
    | some digits => ⟨digits, power⟩
    | none => interval.search tries (power - 1)

def Numeral.trim : Nat → Numeral → Numeral
  | 0, decimal => decimal
  | steps + 1, decimal =>
    if decimal.digits % 10 = 0 && decimal.digits != 0 then
      Numeral.trim steps ⟨decimal.digits / 10, decimal.exponent + 1⟩
    else decimal

def shortest (binary : Binary) : Numeral :=
  let interval := binary.interval
  (interval.search 20 interval.magnitude).trim 20

inductive Parts where
  | zero (negative : Bool)
  | finite (negative : Bool) (binary : Binary)
  | infinite (negative : Bool)
  | undefined

def parts (value : Float) : Parts :=
  let bits : Nat := value.toBits.toNat
  let negative := bits / Nat.pow 2 63 == 1
  let biased : Nat := bits / Nat.pow 2 52 % Nat.pow 2 11
  let fraction : Nat := bits % Nat.pow 2 52
  if biased = 2047 then if fraction = 0 then .infinite negative else .undefined
  else if biased = 0 then
    if fraction = 0 then .zero negative
    else .finite negative ⟨fraction, -1074, false⟩
  else
    .finite negative
      ⟨fraction + Nat.pow 2 52, (biased : Int) - 1075, fraction == 0 && biased != 1⟩

structure Layout where
  least : Int
  greatest : Int
  plus : String

def positional (digits : List Char) (exponent : Int) : List Char :=
  if 0 ≤ exponent then digits ++ List.replicate exponent.toNat '0' ++ ['.', '0']
  else
    let places := (-exponent).toNat
    if places < digits.length then
      digits.take (digits.length - places) ++ '.' :: digits.drop (digits.length - places)
    else ['0', '.'] ++ List.replicate (places - digits.length) '0' ++ digits

def scientific (layout : Layout) (digits : List Char) (magnitude : Int) : List Char :=
  let leading := match digits with
    | [] => []
    | [digit] => [digit]
    | digit :: rest => digit :: '.' :: rest
  let sign := if magnitude < 0 then "-" else layout.plus
  leading ++ 'e' :: sign.toList ++ Nat.toDigits 10 magnitude.natAbs

def Layout.write (layout : Layout) (decimal : Numeral) : List Char :=
  let digits := Nat.toDigits 10 decimal.digits
  let magnitude := decimal.exponent + digits.length - 1
  if layout.least ≤ magnitude && magnitude ≤ layout.greatest then
    positional digits decimal.exponent
  else scientific layout digits magnitude

def Layout.render (layout : Layout) (value : Float) : String :=
  let signed := fun (negative : Bool) (text : List Char) =>
    String.ofList (if negative then '-' :: text else text)
  match parts value with
  | .zero negative => signed negative ['0', '.', '0']
  | .finite negative binary => signed negative (layout.write (shortest binary))
  | .infinite negative => signed negative ['i', 'n', 'f']
  | .undefined => "NaN"

end MessageStream.Decimal
