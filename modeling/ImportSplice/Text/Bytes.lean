/-!
Text is a list of bytes, so nothing here assumes that a source file or a path
is well-formed UTF-8.  This module holds the byte strings themselves, their
decimal numbers, and cutting and joining at one byte.
-/

namespace ImportSplice

abbrev Bytes := List UInt8

/-- The bytes of a literal whose characters are all ASCII. -/
def ascii (literal : String) : Bytes :=
  literal.toList.map fun char => UInt8.ofNat char.toNat

namespace Bytes

def newline : UInt8 := 10
def carriageReturn : UInt8 := 13
def quote : UInt8 := 34
def comma : UInt8 := 44
def slash : UInt8 := 47

def isDigit (byte : UInt8) : Bool := 48 ≤ byte && byte ≤ 57

/-- The decimal digits of a natural number, without leading zeros. -/
def decimal (number : Nat) : Bytes :=
  if number < 10 then [UInt8.ofNat (48 + number)]
  else decimal (number / 10) ++ [UInt8.ofNat (48 + number % 10)]

/-- A decimal integer; only negative numbers carry a sign. -/
def signedDecimal : Int → Bytes
  | .ofNat number => decimal number
  | .negSucc number => 45 :: decimal (number + 1)

/-- The number that a run of decimal digits spells. -/
def decimalValue (digits : Bytes) : Nat :=
  digits.foldl (fun value digit => 10 * value + (digit.toNat - 48)) 0

/-- The pieces of a text between the occurrences of a byte, at least one. -/
def splitOn (separator : UInt8) (text : Bytes) : List Bytes :=
  List.splitOnP (· == separator) text

def joinWith (separator : Bytes) (pieces : List Bytes) : Bytes :=
  separator.intercalate pieces

@[simp]
theorem joinWith_singleton (separator piece : Bytes) : joinWith separator [piece] = piece :=
  List.intercalate_singleton

theorem joinWith_cons_cons (separator : UInt8) (first second : Bytes) (rest : List Bytes) :
    joinWith [separator] (first :: second :: rest) =
      first ++ separator :: joinWith [separator] (second :: rest) := by
  rw [joinWith, List.intercalate_cons_cons, List.append_assoc]
  rfl

theorem not_mem_joinWith {byte separator : UInt8} {pieces : List Bytes} (other : byte ≠ separator)
    (absent : ∀ piece ∈ pieces, byte ∉ piece) : byte ∉ joinWith [separator] pieces := by
  induction pieces with
  | nil => simp [joinWith]
  | cons piece rest inductionHypothesis =>
      rw [List.forall_mem_cons] at absent
      cases rest with
      | nil => simpa using absent.1
      | cons next more =>
          rw [joinWith_cons_cons, List.mem_append, List.mem_cons, not_or, not_or]
          exact ⟨absent.1, other, inductionHypothesis absent.2⟩

def occursIn (part : Bytes) : Bytes → Bool
  | [] => part.isEmpty
  | text@(_ :: rest) => part.isPrefixOf text || occursIn part rest

/-- What stands before and after the first occurrence of a byte. -/
def cutAt (separator : UInt8) (text : Bytes) : Option (Bytes × Bytes) :=
  match text.span (· != separator) with
  | (before, _ :: after) => some (before, after)
  | (_, []) => none

end Bytes

end ImportSplice
