import StaticSite.Text.Basic

/-!
# Shortest decimals

The decimal with the fewest digits that reads back as a given binary fraction.  A fraction
`m * 2 ^ q` is the nearest one to every real number in an interval around it.  For one
digit, two digits and so on the two neighbours of the fraction on the grid of decimals with
so many digits are tried: the first grid that has one of them in the interval wins.
-/

namespace StaticSite

namespace Decimal

/-- A positive fraction `mantissa * 2 ^ exponent`, with a mantissa that fits its width. -/
structure Binary where
  mantissa : Nat
  exponent : Int
  deriving DecidableEq, Repr

/-- Decimal digits with the position of the decimal point, counted from the first digit. -/
structure Digits where
  digits : Text
  point : Int
  deriving DecidableEq, Repr

def mantissaBits : Nat := 53

def leastExponent : Int := -1074

/-- A fraction with the two ends of its interval over a common denominator. -/
structure Interval where
  low : Nat
  value : Nat
  high : Nat
  denominator : Nat
  /-- Whether the ends belong to the interval. -/
  closed : Bool
  deriving DecidableEq, Repr

/-- The interval of the real numbers that a fraction is the nearest one to.  Below a power of
two the fractions are twice as dense. -/
def Binary.interval (binary : Binary) : Interval :=
  let value := 4 * binary.mantissa
  let below :=
    if binary.mantissa = Nat.pow 2 (mantissaBits - 1) ∧ leastExponent < binary.exponent then 1 else 2
  let shift := binary.exponent - 2
  let scale := Nat.pow 2 shift.toNat
  let closed := binary.mantissa % 2 == 0
  ⟨(value - below) * scale, value * scale, (value + 2) * scale, Nat.pow 2 (-shift).toNat, closed⟩

def Interval.timesTen (interval : Interval) (power : Int) : Interval :=
  let up := Nat.pow 10 power.toNat
  { interval with
    low := interval.low * up
    value := interval.value * up
    high := interval.high * up
    denominator := interval.denominator * Nat.pow 10 (-power).toNat }

/-- Whether a natural number lies in an interval. -/
def Interval.holds (interval : Interval) (candidate : Nat) : Bool :=
  let scaled := candidate * interval.denominator
  if interval.closed then interval.low ≤ scaled && scaled ≤ interval.high
  else interval.low < scaled && scaled < interval.high

/-- The natural number in an interval that is next to its value, if one of the two
neighbours of the value lies in it. -/
def Interval.nearest? (interval : Interval) : Option Nat :=
  let floor := interval.value / interval.denominator
  let twiceRest := 2 * (interval.value % interval.denominator)
  let below := interval.holds floor
  let above := interval.holds (floor + 1)
  if below && above then
    if twiceRest < interval.denominator then some floor
    else if interval.denominator < twiceRest then some (floor + 1)
    else some (if floor % 2 = 0 then floor else floor + 1)
  else if below then some floor
  else if above then some (floor + 1)
  else none

/-- The number of digits before the decimal point of a fraction; zero or negative if it
begins behind the point. -/
def Binary.point (binary : Binary) : Int :=
  let interval := binary.interval
  let whole := interval.value / interval.denominator
  if 0 < whole then (Nat.toDigits 10 whole).length
  else
    let zeros := (List.range 400).find? fun power =>
      interval.denominator ≤ interval.value * Nat.pow 10 power
    1 - (zeros.getD 0 : Int)

/-- Try grids with one digit more each time. -/
def search (interval : Interval) (point : Int) : (grids : Nat) → (count : Nat) → Digits
  | 0, _ => ⟨['0'], 1⟩
  | grids + 1, count =>
    match (interval.timesTen (count - point)).nearest? with
    | some candidate =>
      let digits := Nat.toDigits 10 candidate
      ⟨Text.trimRightOf (· = '0') digits, point + digits.length - count⟩
    | none => search interval point grids (count + 1)

/-- The shortest decimal that reads back as a fraction. -/
def Binary.shortest (binary : Binary) : Digits := search binary.interval binary.point 17 1

/-- The parts of a number in double precision. -/
inductive Parts where
  | zero (negative : Bool)
  | finite (negative : Bool) (magnitude : Binary)
  | infinite (negative : Bool)
  | notANumber
  deriving DecidableEq, Repr

/-- Take the sixty-four bits of a number apart. -/
def Parts.ofBits (bits : Nat) : Parts :=
  let negative := Nat.pow 2 63 ≤ bits
  let exponent : Nat := bits / Nat.pow 2 52 % Nat.pow 2 11
  let fraction := bits % Nat.pow 2 52
  if exponent = 2047 then if fraction = 0 then .infinite negative else .notANumber
  else if exponent = 0 then
    if fraction = 0 then .zero negative else .finite negative ⟨fraction, leastExponent⟩
  else .finite negative ⟨Nat.pow 2 52 + fraction, (exponent : Int) - 1075⟩

def Parts.equals (value : Int) : Parts → Bool
  | .zero _ => value = 0
  | .finite negative magnitude =>
    decide (value < 0) = negative &&
      magnitude.mantissa * Nat.pow 2 magnitude.exponent.toNat =
        value.natAbs * Nat.pow 2 (-magnitude.exponent).toNat
  | .infinite _ | .notANumber => false

/-- Digits with a decimal point within or beside them. -/
def positional (digits : Text) (point : Int) : Text :=
  if point ≤ 0 then "0." ++ List.replicate (-point).toNat '0' ++ digits
  else if digits.length ≤ point.toNat then
    digits ++ List.replicate (point.toNat - digits.length) '0' ++ ".0"
  else digits.take point.toNat ++ "." ++ digits.drop point.toNat

/-- Digits with one of them before the decimal point, and a power of ten with a sign and at
least two digits. -/
def scientific (digits : Text) (point : Int) : Text :=
  let power := point - 1
  let fraction := digits.drop 1
  digits.take 1 ++ (if fraction.isEmpty then [] else '.' :: fraction) ++ "e" ++
    (if power < 0 then "-" else "+") ++ Text.twoDigits power.natAbs

/-- The written form of a magnitude: positional from `1e-4` up to `1e16`, and scientific
beyond. -/
def magnitudeText (digits : Digits) : Text :=
  if -4 < digits.point ∧ digits.point ≤ 16 then positional digits.digits digits.point
  else scientific digits.digits digits.point

/-- The written form of a number in double precision. -/
def Parts.text : Parts → Text
  | .zero negative => (if negative then "-" else "") ++ "0.0"
  | .finite negative magnitude =>
    (if negative then "-" else "") ++ magnitudeText magnitude.shortest
  | .infinite negative => (if negative then "-" else "") ++ "inf"
  | .notANumber => "nan"

/-- The written form of a number. -/
def ofFloat (value : Float) : Text := (Parts.ofBits value.toBits.toNat).text

/-- A number from its decimal digits before and behind the point and a power of ten. -/
def toFloat (negative : Bool) (whole fraction : Text) (power : Int) : Float :=
  let digits := (whole ++ fraction).dropWhile (· = '0')
  let mantissa := digits.foldl (fun value digit => value * 10 + (digit.toNat - 48)) 0
  let exponent := power - fraction.length
  let magnitude :=
    if mantissa = 0 then 0.0
    else if 400 < exponent + digits.length then 1.0 / 0.0
    else if exponent + digits.length < -400 then 0.0
    else if 0 ≤ exponent then Float.ofScientific mantissa false exponent.toNat
    else Float.ofScientific mantissa true (-exponent).toNat
  if negative then -magnitude else magnitude

end Decimal

end StaticSite
