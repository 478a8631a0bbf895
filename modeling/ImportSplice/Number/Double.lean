import ImportSplice.Text.Bytes

/-!
Double-precision numbers as exact integers: `nearest` rounds a fraction and
`shortest` finds the fewest decimal digits that round back to it.
-/

namespace ImportSplice

/-- The magnitude of a finite double, `mantissa * 2 ^ exponent`. -/
structure Double where
  mantissa : Nat
  exponent : Int
  deriving DecidableEq, Repr

namespace Double

/-- The least mantissa of 53 bits; only numbers near zero have a shorter one. -/
def leastNormal : Nat := 0x10000000000000

/-- Numerator and denominator of a number times a power of a base. -/
def scaled (base : Nat) (factor : Nat) (power : Int) : Nat × Nat :=
  if power < 0 then (factor, Nat.pow base power.natAbs)
  else (factor * Nat.pow base power.natAbs, 1)

/-- A quotient rounded to the nearest integer; a half goes to the even one. -/
def roundQuotient (numerator denominator : Nat) : Nat :=
  let quotient := numerator / denominator
  let rest := 2 * (numerator % denominator)
  if rest > denominator || (rest == denominator && quotient % 2 == 1) then quotient + 1
  else quotient

/-- The largest `n` with `2 ^ n` at most a positive fraction. -/
def floorLog (numerator denominator : Nat) : Int :=
  let guess : Int := (Nat.log2 numerator : Int) - (Nat.log2 denominator : Int)
  let (low, unit) := scaled 2 denominator guess
  if low ≤ numerator * unit then guess else guess - 1

/-- The double nearest to a fraction, unless it is too large for one. -/
def nearest (numerator denominator : Nat) : Option Double :=
  if numerator == 0 then some { mantissa := 0, exponent := -1074 }
  else
    let exponent := max (floorLog numerator denominator - 52) (-1074)
    let (above, below) := scaled 2 1 exponent
    let mantissa := roundQuotient (numerator * below) (denominator * above)
    let result : Double :=
      if mantissa == 2 * leastNormal then
        { mantissa := leastNormal, exponent := exponent + 1 }
      else { mantissa, exponent }
    if result.exponent > 971 then none else some result

/-- A decimal number: its digits as an integer, times a power of ten. -/
structure Digits where
  value : Nat
  power : Int

/-- The number with its last digit not zero. -/
def Digits.strip (digits : Digits) : Digits :=
  match digits.value with
  | 0 => { value := 0, power := 0 }
  | value =>
      let zeros := ((Bytes.decimal value).reverse.takeWhile (· == 48)).length
      { value := value / Nat.pow 10 zeros, power := digits.power + zeros }

/-- The least `n` with a number below `10 ^ n`. -/
def decimalPlace (double : Double) : Int :=
  let (above, below) := scaled 2 double.mantissa double.exponent
  let place := (List.range 700).find? fun (n : Nat) =>
    let (high, unit) := scaled 10 1 ((n : Int) - 340)
    above * unit < high * below
  (place.getD 699 : Int) - 340

/-- The decimal with a given number of digits that rounds to a double, if there
is one; of two such decimals the nearer. -/
def withDigits? (double : Double) (place : Int) (count : Nat) : Option Digits :=
  let power := place - count
  let middle := 4 * double.mantissa
  let high := middle + 2
  let low :=
    if double.mantissa == leastNormal && double.exponent > -1074 then middle - 1 else middle - 2
  let (above, below) := scaled 2 1 (double.exponent - 2)
  let (unit, parts) := scaled 10 1 power
  -- A decimal `c` and a quarter step `x` stand for `c * grid` and `x * step`.
  let grid := unit * below
  let step := above * parts
  let inside := fun candidate =>
    if double.mantissa % 2 == 0 then
      low * step ≤ candidate * grid && candidate * grid ≤ high * step
    else low * step < candidate * grid && candidate * grid < high * step
  let floor := middle * step / grid
  let ceiling := floor + 1
  match inside floor, inside ceiling with
  | true, true =>
      let nearer :=
        if middle * step - floor * grid ≤ ceiling * grid - middle * step then floor else ceiling
      some { value := nearer, power }
  | true, false => some { value := floor, power }
  | false, true => some { value := ceiling, power }
  | false, false => none

def shortest (double : Double) : Digits :=
  if double.mantissa == 0 then { value := 0, power := 0 }
  else
    let place := double.decimalPlace
    let found := (List.range 17).findSome? fun count => double.withDigits? place (count + 1)
    (found.getD { value := 0, power := 0 }).strip

/-- A number as it is written: positional from `10 ^ -4` up to a million, with an
exponent of at least two digits elsewhere. -/
def render (negative : Bool) (double : Double) : Bytes :=
  let digits := double.shortest
  let text := Bytes.decimal digits.value
  let exponent : Int := if digits.value == 0 then 0 else digits.power + text.length - 1
  let sign := if negative then ascii "-" else []
  if exponent < -4 || exponent ≥ 6 then
    let fraction := text.drop 1
    let size := Bytes.decimal exponent.natAbs
    sign ++ text.take 1 ++ (if fraction.isEmpty then [] else 46 :: fraction) ++ ascii "e" ++
      (if exponent < 0 then ascii "-" else ascii "+") ++
      (if size.length < 2 then 48 :: size else size)
  else if exponent < 0 then
    sign ++ ascii "0." ++ List.replicate (exponent.natAbs - 1) 48 ++ text
  else
    let whole := exponent.natAbs + 1
    if text.length ≤ whole then sign ++ text ++ List.replicate (whole - text.length) 48
    else sign ++ text.take whole ++ ascii "." ++ text.drop whole

end Double

end ImportSplice
