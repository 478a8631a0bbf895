import ImportSplice.Text.Bytes

/-!
Texts that other readers would take for a date or a time of day.
-/

namespace ImportSplice.Timestamp

def twoDigits? : Bytes → Option (Nat × Bytes)
  | a :: b :: rest =>
      if Bytes.isDigit a && Bytes.isDigit b then some (Bytes.decimalValue [a, b], rest) else none
  | _ => none

def oneOrTwoDigits? (text : Bytes) : Option (Nat × Bytes) :=
  match twoDigits? text with
  | some result => some result
  | none =>
      match text with
      | a :: rest => if Bytes.isDigit a then some (Bytes.decimalValue [a], rest) else none
      | [] => none

def expect? (byte : UInt8) : Bytes → Option Bytes
  | [] => none
  | first :: rest => if first == byte then some rest else none

def isLeapYear (year : Nat) : Bool := year % 4 == 0 && (year % 100 != 0 || year % 400 == 0)

def daysInMonth (year month : Nat) : Nat :=
  if month == 2 then (if isLeapYear year then 29 else 28)
  else if [4, 6, 9, 11].contains month then 30
  else 31

/-- A day of the calendar, as in `2006-01-02`. -/
def date? (text : Bytes) : Option Bytes := do
  let (century, rest) ← twoDigits? text
  let (years, rest) ← twoDigits? rest
  let (month, rest) ← twoDigits? (← expect? 45 rest)
  let (day, rest) ← twoDigits? (← expect? 45 rest)
  let year := 100 * century + years
  if 1 ≤ month && month ≤ 12 && 1 ≤ day && day ≤ daysInMonth year month then some rest else none

/-- A fraction of a second, which may be missing. -/
def dropFraction : Bytes → Bytes
  | point :: digit :: rest =>
      if (point == 46 || point == Bytes.comma) && Bytes.isDigit digit then
        rest.dropWhile Bytes.isDigit
      else point :: digit :: rest
  | text => text

/-- A time of day with seconds, as in `15:04:05`. -/
def clock? (text : Bytes) : Option Bytes := do
  let (hour, rest) ← oneOrTwoDigits? text
  let (minute, rest) ← twoDigits? (← expect? 58 rest)
  let (second, rest) ← twoDigits? (← expect? 58 rest)
  if hour < 24 && minute < 60 && second < 60 then some (dropFraction rest) else none

/-- A time zone: `Z`, or an offset such as `+07:00`. -/
def zone? : Bytes → Option Bytes
  | [] => none
  | sign :: rest =>
      if sign == 90 then some rest
      else if sign != 43 && sign != 45 then none
      else do
        let (hours, rest) ← twoDigits? rest
        let (minutes, rest) ← twoDigits? (← expect? 58 rest)
        if hours ≤ 24 && minutes ≤ 60 then some rest else none

/-- Hours and minutes alone, as in `15:4`. -/
def shortClock? (text : Bytes) : Option Bytes := do
  let (hour, rest) ← oneOrTwoDigits? text
  let (minute, rest) ← oneOrTwoDigits? (← expect? 58 rest)
  if hour < 24 && minute < 60 then some rest else none

/-- A date alone, with a time of day, or with a time of day and a zone. -/
def afterDate? : Bytes → Option Bytes
  | [] => some []
  | mark :: rest =>
      if mark == 32 then clock? (rest.dropWhile (· == 32))
      else if mark == 84 || mark == 116 then (clock? rest).bind zone?
      else none

def isTimestamp (text : Bytes) : Bool :=
  (date? text).bind afterDate? == some [] || shortClock? text == some []

end ImportSplice.Timestamp
