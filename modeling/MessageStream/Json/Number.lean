/-!
Numbers of configuration texts. Configurations hold none, so a number is read only to say what was
found in place of something else: an integer where it fits, and a floating-point value otherwise.

A floating-point value comes from a significand of sixty-four bits, beyond which digits only count,
and a power of ten applied to it in floating-point arithmetic, in steps of at most `10 ^ 308`.
-/
namespace MessageStream.Json

inductive Number where
  | integer (value : Int)
  | float (value : Float)

/-- The significand read so far, and the power of ten it stands for. -/
structure Scaled where
  significand : Nat
  power : Int

def isDigit (c : Char) : Bool := '0' ≤ c && c ≤ '9'

def digitValue (c : Char) : Nat := c.toNat - '0'.toNat

def absorb (significand : Nat) : List Char → Nat × Nat
  | [] => (significand, 0)
  | c :: rest =>
    let next := significand * 10 + digitValue c
    if next < Nat.pow 2 64 then absorb next rest else (significand, rest.length + 1)

def wholeDigits (digits : List Char) : Scaled :=
  let absorbed := absorb 0 digits
  ⟨absorbed.1, absorbed.2⟩

def Scaled.fraction (scaled : Scaled) (digits : List Char) : Scaled :=
  let absorbed := absorb scaled.significand digits
  ⟨absorbed.1, scaled.power - ((digits.length : Int) - absorbed.2)⟩

def tenTo (power : Nat) : Float := Float.ofScientific 1 false power

/-- Applies a power of ten. A result beyond the largest finite value is refused. -/
def scale? (value : Float) (power : Int) : Option Float :=
  if 0 ≤ power then
    if power ≤ 308 then
      let scaled := value * tenTo power.toNat
      if scaled.isInf then none else some scaled
    else if value == 0 then some value
    else none
  else if -308 ≤ power then some (value / tenTo (-power).toNat)
  else if value == 0 then some value
  else scale? (value / tenTo 308) (power + 308)
termination_by (-power).toNat
decreasing_by omega

def Scaled.float? (scaled : Scaled) (negative : Bool) : Option Number :=
  (scale? (UInt64.ofNat scaled.significand).toFloat scaled.power).map fun value =>
    .float (if negative then -value else value)

def wholeNumber (negative : Bool) (value : Nat) : Number :=
  if negative then
    if value = 0 || Nat.pow 2 63 < value then .float (-(UInt64.ofNat value).toFloat)
    else .integer (-value)
  else .integer value

def digitsValue (digits : List Char) : Nat :=
  digits.foldl (fun value c => value * 10 + digitValue c) 0

/-- An exponent, read from behind its mark. One of more than thirty-one bits makes a value too
large, or nothing at all. -/
def exponent? (negative : Bool) (scaled : Scaled) (input : List Char) : Option Number :=
  let signed := match input with
    | '+' :: rest => (false, rest)
    | '-' :: rest => (true, rest)
    | _ => (false, input)
  let digits := signed.2.takeWhile isDigit
  if digits.isEmpty then none
  else
    let power := digitsValue digits
    if Nat.pow 2 31 ≤ power then
      if scaled.significand != 0 && !signed.1 then none
      else some (.float (if negative then -0.0 else 0.0))
    else
      Scaled.float? { scaled with
        power := if signed.1 then scaled.power - power else scaled.power + power } negative

def afterFraction? (negative : Bool) (scaled : Scaled) (input : List Char) : Option Number :=
  match input with
  | 'e' :: rest => exponent? negative scaled rest
  | 'E' :: rest => exponent? negative scaled rest
  | _ => scaled.float? negative

def afterWhole? (negative : Bool) (scaled : Scaled) (input : List Char) : Option Number :=
  match input with
  | '.' :: rest =>
    let digits := rest.takeWhile isDigit
    if digits.isEmpty then none
    else afterFraction? negative (scaled.fraction digits) (rest.dropWhile isDigit)
  | 'e' :: rest => exponent? negative scaled rest
  | 'E' :: rest => exponent? negative scaled rest
  | _ =>
    if scaled.power = 0 then some (wholeNumber negative scaled.significand)
    else scaled.float? negative

def number? (negative : Bool) (input : List Char) : Option Number :=
  let digits := input.takeWhile isDigit
  match digits with
  | [] => none
  | '0' :: _ :: _ => none
  | _ => afterWhole? negative (wholeDigits digits) (input.dropWhile isDigit)

end MessageStream.Json
