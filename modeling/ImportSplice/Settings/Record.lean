import ImportSplice.Text.Bytes

/-!
Comma-separated records.  A field may stand in double quotes, inside of which a
doubled quote is a quote and commas and newlines are plain text.  Only the first
record of a text is read, and blank lines before it are skipped.
-/

namespace ImportSplice.Record

inductive Defect where
  /-- There are only blank lines. -/
  | nothing
  /-- A quote inside a field that does not start with one. -/
  | bareQuote (start line column : Nat)
  /-- A quoted field that goes on after its closing quote, or never closes. -/
  | brokenQuotes (start line column : Nat)
  deriving DecidableEq, Repr

namespace Defect

def place (start line column : Nat) : Bytes :=
  (if start == line then []
    else ascii "record on line " ++ Bytes.decimal start ++ ascii "; ") ++
  ascii "parse error on line " ++ Bytes.decimal line ++ ascii ", column " ++
  Bytes.decimal column ++ ascii ": "

def message : Defect → Bytes
  | nothing => ascii "EOF"
  | bareQuote start line column =>
      place start line column ++ ascii "bare \" in non-quoted-field"
  | brokenQuotes start line column =>
      place start line column ++ ascii "extraneous or missing \" in quoted-field"

end Defect

/-- A text whose lines end in a newline alone: a carriage return before a newline
or at the very end is dropped. -/
def plainLines : Bytes → Bytes
  | 13 :: 10 :: rest => 10 :: plainLines rest
  | [13] => []
  | byte :: rest => byte :: plainLines rest
  | [] => []

inductive Mode where
  | start
  | plain
  | quoted
  /-- After a quote in a quoted field: its end, or half of a doubled quote. -/
  | closing

/-- Line of the record's start, and line and column of the next byte. -/
structure Place where
  start : Nat
  line : Nat
  column : Nat

namespace Place

def advance (place : Place) : Place := { place with column := place.column + 1 }

def nextLine (place : Place) : Place := { place with line := place.line + 1, column := 1 }

def bareQuote (place : Place) : Defect := .bareQuote place.start place.line place.column

def brokenQuotes (place : Place) : Defect := .brokenQuotes place.start place.line place.column

end Place

/-- Reads fields up to the end of the record.  The current field and the fields
before it are kept back to front. -/
def readFields (place : Place) (fields : List Bytes) (field : Bytes) :
    Mode → Bytes → Except Defect (List Bytes)
  | .start, 34 :: rest => readFields place.advance fields [] .quoted rest
  | .start, 44 :: rest => readFields place.advance ([] :: fields) [] .start rest
  | .start, 10 :: _ => .ok ([] :: fields).reverse
  | .start, byte :: rest => readFields place.advance fields [byte] .plain rest
  | .start, [] => .ok ([] :: fields).reverse
  | .plain, 34 :: _ => .error place.bareQuote
  | .plain, 44 :: rest => readFields place.advance (field.reverse :: fields) [] .start rest
  | .plain, 10 :: _ => .ok (field.reverse :: fields).reverse
  | .plain, byte :: rest => readFields place.advance fields (byte :: field) .plain rest
  | .plain, [] => .ok (field.reverse :: fields).reverse
  | .quoted, 34 :: rest => readFields place.advance fields field .closing rest
  | .quoted, 10 :: rest =>
      readFields (if rest.isEmpty then place.advance else place.nextLine) fields (10 :: field)
        .quoted rest
  | .quoted, byte :: rest => readFields place.advance fields (byte :: field) .quoted rest
  | .quoted, [] => .error place.brokenQuotes
  | .closing, 34 :: rest => readFields place.advance fields (34 :: field) .quoted rest
  | .closing, 44 :: rest => readFields place.advance (field.reverse :: fields) [] .start rest
  | .closing, 10 :: _ => .ok (field.reverse :: fields).reverse
  | .closing, _ :: _ => .error { place with column := place.column - 1 }.brokenQuotes
  | .closing, [] => .ok (field.reverse :: fields).reverse

/-- Skips blank lines, then reads the record that starts on the line reached. -/
def readFrom (line : Nat) : Bytes → Except Defect (List Bytes)
  | [] => .error .nothing
  | 10 :: rest => readFrom (line + 1) rest
  | text => readFields { start := line, line, column := 1 } [] [] .start text

def read (text : Bytes) : Except Defect (List Bytes) := readFrom 1 (plainLines text)

end ImportSplice.Record
