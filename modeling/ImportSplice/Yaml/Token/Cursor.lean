import ImportSplice.Yaml.Token

/-!
Where a reader stands in a text, and what it knows of the line it is in.
-/

namespace ImportSplice.Yaml

structure Cursor where
  line : Nat := 1
  column : Int := 1
  /-- The number of blanks at the front of the line. -/
  indent : Nat := 0
  /-- Only blanks have been seen in the line. -/
  atLineStart : Bool := true
  /-- The name of an anchor or reference is being read. -/
  inLabel : Bool := false
  inDirective : Bool := false
  /-- The column of the last delimiter: a name, a dash or a question mark. -/
  delimiter : Int := 0
  deriving DecidableEq, Repr

namespace Cursor

def advance (cursor : Cursor) (count : Int) : Cursor :=
  { cursor with column := cursor.column + count }

def nextLine (cursor : Cursor) : Cursor :=
  { line := cursor.line + 1, delimiter := cursor.delimiter }

end Cursor

end ImportSplice.Yaml
