import ImportSplice.Text.Utf8
import ImportSplice.Text.Printable

/-!
Quoted text in messages: what cannot be printed is escaped, and a byte that is
not part of a character appears in hexadecimal.
-/

namespace ImportSplice.Quoted

def hexDigit (value : Nat) : UInt8 :=
  UInt8.ofNat (if value < 10 then 48 + value else 87 + value)

/-- The lowest `width` hexadecimal digits of a number. -/
def hex : (width : Nat) → Nat → Bytes
  | 0, _ => []
  | width + 1, value => hex width (value / 16) ++ [hexDigit (value % 16)]

/-- The letter that stands for a control character after a backslash. -/
def shortEscape? : Nat → Option UInt8
  | 7 => some 97
  | 8 => some 98
  | 9 => some 116
  | 10 => some 110
  | 11 => some 118
  | 12 => some 102
  | 13 => some 114
  | _ => none

/-- One character between quotes of the given kind. -/
def char (delimiter point : Nat) : Bytes :=
  if point == delimiter || point == 92 then [92, UInt8.ofNat point]
  else if isPrintable point then Utf8.encode point
  else match shortEscape? point with
    | some letter => [92, letter]
    | none =>
        if point < 0x20 || point == 0x7F then ascii "\\x" ++ hex 2 point
        else if point < 0x10000 then ascii "\\u" ++ hex 4 point
        else ascii "\\U" ++ hex 8 point

def piece : Utf8.Piece → Bytes
  | .char point => char 34 point
  | .stray byte => ascii "\\x" ++ hex 2 byte.toNat

end ImportSplice.Quoted

namespace ImportSplice

open Quoted

def quoted (text : Bytes) : Bytes :=
  34 :: (Utf8.pieces text).flatMap Quoted.piece ++ [34]

def quotedChar (point : Nat) : Bytes :=
  39 :: Quoted.char 39 point ++ [39]

end ImportSplice
