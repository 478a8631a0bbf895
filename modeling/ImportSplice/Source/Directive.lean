import ImportSplice.Text.Bytes

/-!
`LINE` directives tell a compiler which line of which file the following text
came from.  The path stands between the quotes as it is, so a directive is read
back from its two ends.  `positions` is how a compiler that obeys directives
numbers the lines of a text.
-/

namespace ImportSplice.Directive

def opening : Bytes := ascii "\x7b-# LINE "
def closing : Bytes := ascii "\" #-\x7d\n"

/-- A directive that gives the next line a number and a path. -/
def render (line : Int) (path : Bytes) : Bytes :=
  opening ++ Bytes.signedDecimal line ++ ascii " \"" ++ path ++ closing

def readNumber? : Bytes → Option Int
  | [] => none
  | 45 :: digits =>
      if digits.isEmpty || !digits.all Bytes.isDigit then none
      else some (-(Bytes.decimalValue digits : Int))
  | digits => if digits.all Bytes.isDigit then some (Bytes.decimalValue digits) else none

def parse? (text : Bytes) : Option (Int × Bytes) :=
  if opening.isPrefixOf text && closing.isSuffixOf text then
    match Bytes.cutAt 32 (text.drop opening.length) with
    | some (number, 34 :: rest) =>
        if closing.length ≤ rest.length then
          (readNumber? number).map fun line => (line, rest.take (rest.length - closing.length))
        else none
    | _ => none
  else none

structure Position where
  path : Bytes
  line : Int
  deriving DecidableEq, Repr

/-- The position of the line after one that stands at `position`. -/
def follow (position : Position) (line : Bytes) : Position :=
  match parse? line with
  | some (number, path) => { path, line := number }
  | none => { position with line := position.line + 1 }

/-- The lines of a text with the position that a compiler gives to each. -/
def positions (start : Position) : List Bytes → List (Position × Bytes)
  | [] => []
  | line :: rest => (start, line) :: positions (follow start line) rest

end ImportSplice.Directive
