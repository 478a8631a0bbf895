import ImportSplice.Text.Utf8

/-!
Blank characters and trimming.  A byte that is not part of a character is never
blank, so trimming stops at it from either side.
-/

namespace ImportSplice

/-- White space as Unicode defines it. -/
def isBlank (point : Nat) : Bool :=
  (0x09 ≤ point && point ≤ 0x0D) || point == 0x20 || point == 0x85 || point == 0xA0 ||
    point == 0x1680 || (0x2000 ≤ point && point ≤ 0x200A) || point == 0x2028 ||
    point == 0x2029 || point == 0x202F || point == 0x205F || point == 0x3000

/-- What a Haskell line may be padded with: white space and the four ASCII
separators. -/
def isSourceBlank (point : Nat) : Bool :=
  isBlank point || (0x1C ≤ point && point ≤ 0x1F)

def trimFront (blank : Nat → Bool) (text : Bytes) : Bytes :=
  match read : Utf8.first? text with
  | some (point, rest) =>
      have := Utf8.first?_shorter read
      if blank point then trimFront blank rest else text
  | none => text
termination_by text.length

/-- A reversed text without the blank characters at its front. -/
def trimBack (blank : Nat → Bool) (reversed : Bytes) : Bytes :=
  match read : Utf8.last? reversed with
  | some (point, rest) =>
      have := Utf8.last?_shorter read
      if blank point then trimBack blank rest else reversed
  | none => reversed
termination_by reversed.length

/-- A text without the blank characters at its two ends. -/
def trim (blank : Nat → Bool) (text : Bytes) : Bytes :=
  (trimBack blank (trimFront blank text).reverse).reverse

def hasBlank (text : Bytes) : Bool :=
  (Utf8.pieces text).any fun
    | .char point => isBlank point
    | .stray _ => false

end ImportSplice
