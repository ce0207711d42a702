/-! Binary numbers of 53 digits. They are read from decimal numerals, to the nearest of them, and
written with the fewest decimal digits that read back. -/

namespace SchemaFold

/-- A fraction of whole numbers, the denominator not zero. -/
structure Ratio where
  num : Nat
  den : Nat
  deriving DecidableEq, Repr

namespace Ratio

def scale (r : Ratio) (base : Nat) (power : Int) : Ratio :=
  if 0 ≤ power then { r with num := r.num * Nat.pow base power.toNat }
  else { r with den := r.den * Nat.pow base (-power).toNat }

def floor (r : Ratio) : Nat :=
  r.num / r.den

/-- The nearest whole number, of two the even one. -/
def nearest (r : Ratio) : Nat :=
  let twice := 2 * (r.num % r.den)
  if twice < r.den || (twice == r.den && r.floor % 2 == 0) then r.floor else r.floor + 1

def le (a b : Ratio) : Bool :=
  a.num * b.den ≤ b.num * a.den

def lt (a b : Ratio) : Bool :=
  a.num * b.den < b.num * a.den

/-- How many decimal digits stand before the point; zeros right after it count as less than
none. -/
def magnitude (r : Ratio) : Int :=
  let estimate : Int := (Nat.toDigits 10 r.num).length - (Nat.toDigits 10 r.den).length
  if le (scale ⟨1, 1⟩ 10 estimate) r then estimate + 1 else estimate

end Ratio

/-- A finite number is `mantissa * 2 ^ exponent` under a sign, which zero has too. -/
inductive Double where
  | finite (negative : Bool) (mantissa : Nat) (exponent : Int)
  | infinite (negative : Bool)
  | undefined
  deriving DecidableEq, Repr

namespace Double

def leastExponent : Int :=
  -1074

def greatestExponent : Int :=
  971

/-- Mantissas are below this, and at least half of it unless the exponent is the least. -/
def mantissaBound : Nat :=
  Nat.pow 2 53

def zero (negative : Bool) : Double :=
  .finite negative 0 leastExponent

/-- The exponent at which a fraction has 53 binary digits, or the least one. -/
def exponentOf (r : Ratio) : Int :=
  let estimate : Int := (r.num.log2 : Int) - r.den.log2 - 53
  let exact := if (r.scale 2 (-estimate)).floor < mantissaBound then estimate else estimate + 1
  max exact leastExponent

def ofRatio (negative : Bool) (r : Ratio) : Double :=
  if r.num = 0 then zero negative
  else
    let exponent := exponentOf r
    let mantissa := (r.scale 2 (-exponent)).nearest
    let (mantissa, exponent) :=
      if mantissa = mantissaBound then (mantissaBound / 2, exponent + 1) else (mantissa, exponent)
    if greatestExponent < exponent then .infinite negative
    else .finite negative mantissa exponent

/-- The number that is nearest to `digits * 10 ^ exponent`. -/
def ofDecimal (negative : Bool) (digits : Nat) (exponent : Int) : Double :=
  let magnitude := (Nat.toDigits 10 digits).length + exponent
  if digits = 0 || magnitude < -400 then zero negative
  else if 400 < magnitude then .infinite negative
  else ofRatio negative (Ratio.scale ⟨digits, 1⟩ 10 exponent)

def isZero : Double → Bool
  | .finite _ mantissa _ => mantissa == 0
  | .infinite _ | .undefined => false

/-- Equality of what is denoted: the sign of zero does not count, and what is undefined equals
nothing. -/
def same (x y : Double) : Bool :=
  (x.isZero && y.isZero) || (x != .undefined && x == y)

def isInteger (x : Double) (n : Int) : Bool :=
  match x with
  | .finite negative mantissa exponent =>
    let r := Ratio.scale ⟨mantissa, 1⟩ 2 exponent
    r.num == n.natAbs * r.den && (n == 0 || negative == (n < 0))
  | .infinite _ | .undefined => false

/-- Whether `digits * 10 ^ power` is read as `mantissa * 2 ^ exponent`. Halfway to a neighbour,
the even mantissa is read. -/
def readsBack (mantissa : Nat) (exponent : Int) (digits : Nat) (power : Int) : Bool :=
  let quarters (n : Nat) : Ratio := Ratio.scale ⟨n, 1⟩ 2 (exponent - 2)
  let closeBelow := mantissa == mantissaBound / 2 && leastExponent < exponent
  let low := quarters (4 * mantissa - if closeBelow then 1 else 2)
  let high := quarters (4 * mantissa + 2)
  let written := Ratio.scale ⟨digits, 1⟩ 10 power
  if mantissa % 2 == 0 then low.le written && written.le high
  else low.lt written && written.lt high

/-- The multiple of `10 ^ power` nearest to a number, among those that are read as it. -/
def multiple? (mantissa : Nat) (exponent power : Int) : Option Nat :=
  let r := Ratio.scale (Ratio.scale ⟨mantissa, 1⟩ 2 exponent) 10 (-power)
  let other := if r.nearest = r.floor then r.floor + 1 else r.floor
  [r.nearest, other].find? (readsBack mantissa exponent · power)

/-- The fewest decimal digits that are read as a number, and how many stand before the point. -/
def shortest (mantissa : Nat) (exponent : Int) : List Char × Int :=
  let magnitude := (Ratio.scale ⟨mantissa, 1⟩ 2 exponent).magnitude
  let written? (count : Nat) : Option (List Char × Int) :=
    let power := magnitude - count - 1
    (multiple? mantissa exponent power).map fun n =>
      let digits := Nat.toDigits 10 n
      ((digits.reverse.dropWhile (· == '0')).reverse, digits.length + power)
  ((List.range 17).findSome? written?).getD ([], 0)

/-- A point stands after the first `point` digits, with zeros in between where these are none. -/
def positional (digits : List Char) (point : Int) : String :=
  let zeros (n : Int) := List.replicate n.toNat '0'
  let whole := digits.take point.toNat ++ zeros (point - digits.length)
  let fraction := zeros (-point) ++ digits.drop point.toNat
  let orZero (cs : List Char) := if cs.isEmpty then "0" else String.ofList cs
  orZero whole ++ "." ++ orZero fraction

/-- A point stands after the first digit, and the exponent has two digits at least. -/
def scientific (digits : List Char) (point : Int) : String :=
  let exponent := point - 1
  let fraction := if digits.length ≤ 1 then "" else "." ++ String.ofList (digits.drop 1)
  String.ofList (digits.take 1) ++ fraction ++ (if exponent < 0 then "e-" else "e+") ++
    (if exponent.natAbs < 10 then "0" else "") ++ toString exponent.natAbs

/-- Numbers from a ten-thousandth up to ten to the sixteenth are written without an exponent. -/
def magnitudeText (mantissa : Nat) (exponent : Int) : String :=
  if mantissa = 0 then "0.0"
  else
    let (digits, point) := shortest mantissa exponent
    if -4 < point && point ≤ 16 then positional digits point else scientific digits point

def text : Double → String
  | .finite negative mantissa exponent =>
    (if negative then "-" else "") ++ magnitudeText mantissa exponent
  | .infinite negative => if negative then "-inf" else "inf"
  | .undefined => "nan"

end Double
end SchemaFold
