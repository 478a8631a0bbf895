import ImportSplice.Text.Bytes

/-!
Characters in byte strings that need not be well-formed.  `scalar?` says which
byte strings encode one character; reading from the front and reading from the
back are both defined through it, and every encoding is a whole reading from
either side because no encoding starts or ends with another one.
-/

namespace ImportSplice.Utf8

def isContinuation (byte : UInt8) : Bool := 0x80 ≤ byte && byte ≤ 0xBF

/-- The code point of a byte string that is the encoding of one character:
no overlong form, no surrogate, nothing above `10FFFF`. -/
def scalar? : Bytes → Option Nat
  | [a] => if a < 0x80 then some a.toNat else none
  | [a, b] =>
      if 0xC2 ≤ a && a ≤ 0xDF && isContinuation b then
        some ((a.toNat - 0xC0) * 64 + (b.toNat - 0x80))
      else none
  | [a, b, c] =>
      let point := (a.toNat - 0xE0) * 4096 + (b.toNat - 0x80) * 64 + (c.toNat - 0x80)
      if 0xE0 ≤ a && a ≤ 0xEF && isContinuation b && isContinuation c &&
          0x800 ≤ point && !(0xD800 ≤ point && point ≤ 0xDFFF) then
        some point
      else none
  | [a, b, c, d] =>
      let point := (a.toNat - 0xF0) * 262144 + (b.toNat - 0x80) * 4096 +
        (c.toNat - 0x80) * 64 + (d.toNat - 0x80)
      if 0xF0 ≤ a && a ≤ 0xF4 && isContinuation b && isContinuation c && isContinuation d &&
          0x10000 ≤ point && point ≤ 0x10FFFF then
        some point
      else none
  | _ => none

def encode (point : Nat) : Bytes :=
  if point < 0x80 then [UInt8.ofNat point]
  else if point < 0x800 then
    [UInt8.ofNat (0xC0 + point / 64), UInt8.ofNat (0x80 + point % 64)]
  else if point < 0x10000 then
    [UInt8.ofNat (0xE0 + point / 4096), UInt8.ofNat (0x80 + point / 64 % 64),
      UInt8.ofNat (0x80 + point % 64)]
  else
    [UInt8.ofNat (0xF0 + point / 262144), UInt8.ofNat (0x80 + point / 4096 % 64),
      UInt8.ofNat (0x80 + point / 64 % 64), UInt8.ofNat (0x80 + point % 64)]

theorem scalar?_nil : scalar? [] = none := rfl

/-- The character a text starts with, and the text after it. -/
def first? (text : Bytes) : Option (Nat × Bytes) :=
  [1, 2, 3, 4].findSome? fun width =>
    (scalar? (text.take width)).map fun point => (point, text.drop width)

/-- The character a text ends with, and the text before it; both texts are
given and returned back to front. -/
def last? (reversed : Bytes) : Option (Nat × Bytes) :=
  [1, 2, 3, 4].findSome? fun width =>
    (scalar? (reversed.take width).reverse).map fun point => (point, reversed.drop width)

theorem first?_shorter {text rest : Bytes} {point : Nat}
    (read : first? text = some (point, rest)) : rest.length < text.length := by
  obtain ⟨width, member, found⟩ := List.exists_of_findSome?_eq_some read
  obtain ⟨scalar, decoded, same⟩ := Option.map_eq_some_iff.mp found
  cases same
  cases text with
  | nil => simp [scalar?_nil] at decoded
  | cons byte tail =>
      rw [List.length_drop]
      have positive : 0 < width := by
        simp only [List.mem_cons, List.not_mem_nil, or_false] at member
        omega
      simp only [List.length_cons]
      omega

theorem last?_shorter {reversed rest : Bytes} {point : Nat}
    (read : last? reversed = some (point, rest)) : rest.length < reversed.length := by
  obtain ⟨width, member, found⟩ := List.exists_of_findSome?_eq_some read
  obtain ⟨scalar, decoded, same⟩ := Option.map_eq_some_iff.mp found
  cases same
  cases reversed with
  | nil => simp [scalar?_nil] at decoded
  | cons byte tail =>
      rw [List.length_drop]
      have positive : 0 < width := by
        simp only [List.mem_cons, List.not_mem_nil, or_false] at member
        omega
      simp only [List.length_cons]
      omega

/-- A piece of text as a reader from the front sees it: a character, or a
byte that belongs to none. -/
inductive Piece where
  | char (point : Nat)
  | stray (byte : UInt8)
  deriving DecidableEq, Repr

/-- The pieces of a text, put after those already read (newest first). -/
def piecesOnto (seen : List Piece) : Bytes → List Piece
  | [] => seen.reverse
  | byte :: tail =>
      match read : first? (byte :: tail) with
      | some (point, rest) =>
          have := first?_shorter read
          piecesOnto (.char point :: seen) rest
      | none => piecesOnto (.stray byte :: seen) tail
termination_by text => text.length
decreasing_by
  · assumption
  · simp

def pieces (text : Bytes) : List Piece := piecesOnto [] text

end ImportSplice.Utf8
