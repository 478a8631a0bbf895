import ImportSplice.Number.Double

/-!
Which texts spell numbers.  An integer may be hexadecimal (`0x`), octal (`0o`, or
a leading zero) or binary (`0b`); a text with one point is a fraction.
Underscores between digits are ignored.
-/

namespace ImportSplice

inductive Number where
  | integer (value : Int)
  | fraction (negative : Bool) (magnitude : Double)
  deriving DecidableEq, Repr

namespace Number

inductive Reading where
  | word
  /-- A number that fits into no 64-bit type. -/
  | tooLarge
  | number (value : Number)
  deriving DecidableEq, Repr

/-- The value of a digit in any base up to 36. -/
def digit? (byte : UInt8) : Option Nat :=
  if 48 ≤ byte && byte ≤ 57 then some (byte.toNat - 48)
  else if 97 ≤ byte && byte ≤ 122 then some (byte.toNat - 87)
  else if 65 ≤ byte && byte ≤ 90 then some (byte.toNat - 55)
  else none

def largestWord : Nat := 0xFFFFFFFFFFFFFFFF

/-- The largest number that can be negated within 64 bits. -/
def largestNegated : Int := 0x8000000000000000

/-- Reads digits from left to right; the first bad digit or the first excess over
64 bits decides. -/
def readDigits (base : Nat) (value : Nat) : Bytes → Reading
  | [] => .number (.integer value)
  | byte :: rest =>
      match digit? byte with
      | none => .word
      | some digit =>
          if digit ≥ base then .word
          else if base * value + digit > largestWord then .tooLarge
          else readDigits base (base * value + digit) rest

/-- An integer of at least one digit; a negative one has 63 bits. -/
def readInteger (base : Nat) (negative : Bool) (digits : Bytes) : Reading :=
  if digits.isEmpty then .word
  else match readDigits base 0 digits with
    | .number (.integer value) =>
        if !negative then .number (.integer value)
        else if value > largestNegated then .tooLarge
        else .number (.integer (-value))
    | other => other

/-- The exponent after a mantissa; a long one is cut off where it no longer
matters. -/
def readExponent? (mark : UInt8) : Bytes → Option Int
  | [] => some 0
  | byte :: rest =>
      if byte != mark && byte != mark - 32 then none
      else
        let (negative, digits) := match rest with
          | 43 :: digits => (false, digits)
          | 45 :: digits => (true, digits)
          | digits => (false, digits)
        if digits.isEmpty || !digits.all Bytes.isDigit then none
        else
          let size : Int := min (Bytes.decimalValue digits) 10000
          some (if negative then -size else size)

/-- The digits of a mantissa as one integer, the number of them after the point,
and what follows them. -/
def readMantissa (base : Nat) (text : Bytes) : Option (Nat × Nat × Bytes) :=
  let isDigit := fun byte => (digit? byte).any fun digit => digit < base
  let (whole, rest) := text.span isDigit
  let (part, rest) := match rest with
    | 46 :: after => after.span isDigit
    | other => ([], other)
  if whole.isEmpty && part.isEmpty then none
  else
    let value := (whole ++ part).foldl (fun value byte => base * value + (digit? byte).getD 0) 0
    some (value, part.length, rest)

/-- A fraction with the value `mantissa * base ^ power`.  Sizes far outside the
range of a double are decided before any large power is computed. -/
def ofScaled (negative : Bool) (base mantissa : Nat) (power : Int) : Reading :=
  let size := power + (Bytes.decimal mantissa).length
  if mantissa == 0 || size < -1500 then .number (.fraction negative ⟨0, -1074⟩)
  else if size > 1500 then .tooLarge
  else
    let (above, below) := Double.scaled base mantissa power
    match Double.nearest above below with
    | some double => .number (.fraction negative double)
    | none => .tooLarge

/-- A fraction, with or without an exponent; a hexadecimal one needs its exponent
and counts it in powers of two. -/
def readFraction (negative : Bool) (unsigned : Bytes) : Reading :=
  match unsigned with
  | 48 :: 120 :: digits | 48 :: 88 :: digits =>
      match readMantissa 16 digits with
      | some (_, _, []) => .word
      | some (mantissa, places, rest) =>
          match readExponent? 112 rest with
          | some power => ofScaled negative 2 mantissa (power - 4 * places)
          | none => .word
      | none => .word
  | digits =>
      match readMantissa 10 digits with
      | some (mantissa, places, rest) =>
          match readExponent? 101 rest with
          | some power => ofScaled negative 10 mantissa (power - places)
          | none => .word
      | none => .word

def dropSign (sign : UInt8) : Bytes → Bytes
  | [] => []
  | byte :: rest => if byte == sign then rest else byte :: rest

/-- What a text amounts to when it is written without quotes. -/
def read (text : Bytes) : Reading :=
  let points := text.count 46
  if text.isEmpty || text.head? == some 95 || points > 1 then .word
  else
    let negative := text.head? == some 45
    let digits := (dropSign 45 (dropSign 43 text)).filter (· != 95)
    match digits with
    | 48 :: 120 :: hexadecimal => readInteger 16 negative hexadecimal
    | 48 :: 111 :: octal => readInteger 8 negative octal
    | 48 :: 98 :: binary => readInteger 2 negative binary
    | _ =>
        if points == 1 then
          match negative, digits with
          | false, 43 :: unsigned => readFraction false unsigned
          | false, 45 :: unsigned => readFraction true unsigned
          | _, unsigned => readFraction negative unsigned
        else if digits.head? == some 48 && digits.length > 1 then readInteger 8 negative digits
        else readInteger 10 negative digits

def render : Number → Bytes
  | integer value => Bytes.signedDecimal value
  | fraction negative magnitude => magnitude.render negative

end Number

end ImportSplice
