import ImportSplice.Yaml.Defect
import ImportSplice.Yaml.Token.Draft

/-!
Texts made of whole lines.  A literal block takes its lines as they are, a folded
one joins lines of equal indentation, and so does a bare word that goes on with a
dash on a deeper line.  Columns that are not known yet are zero.
-/

namespace ImportSplice.Yaml

inductive BlockKind where
  | literal
  | folded
  /-- A bare word that goes on. -/
  | continued
  deriving DecidableEq, Repr

structure Block where
  kind : BlockKind
  /-- Line breaks at the end are dropped. -/
  dropEnd : Bool := false
  /-- Line breaks at the end are kept. -/
  keepEnd : Bool := false
  depthGiven : Bool := false
  /-- The column at which the lines of the text start. -/
  margin : Int := 0
  /-- The column at which the current line starts. -/
  lineColumn : Int := 0
  /-- The column at which the line before started. -/
  lastColumn : Int := 0
  /-- The column at which the last line with text started. -/
  lastTextColumn : Int := 0
  /-- The width of the last blank line before the text. -/
  blankWidth : Int := 0
  /-- A line break has not been folded yet. -/
  breakPending : Bool := false
  deriving DecidableEq, Repr

namespace Block

def continuedAt (column : Int) : Block :=
  { kind := .continued, dropEnd := true, margin := column, lineColumn := column }

/-- A text without the line breaks that its block does not keep. -/
def finish (block : Block) (text : List Char) : List Char :=
  let trimmed :=
    if block.dropEnd then trimEnd (· == ' ') (trimEnd (· == '\n') text)
    else if block.keepEnd then text
    else
      let body := trimEnd (· == '\n') text
      if body.length < text.length then body ++ ['\n'] else text
  if trimmed == ['\n'] || trimmed.isEmpty then (if block.keepEnd then ['\n'] else [])
  else trimmed

/-- The block when a character at a column belongs to its text. -/
def reach (block : Block) (column : Int) : Block :=
  { block with
    margin := if block.margin == 0 then column else block.margin
    lineColumn := if block.lineColumn == 0 then column else block.lineColumn }

/-- Whether a line is not as deep as the header says. -/
def isMisplaced (block : Block) : Bool := block.depthGiven && block.margin > block.lineColumn

/-- Whether a column lies before the text. -/
def isBeforeText (block : Block) (column : Int) : Bool :=
  if block.margin == 0 then column == 1 else block.margin > column

/-- The block after a line break at a column. -/
def endLine (block : Block) (column : Int) : Block :=
  { block with
    blankWidth := if block.margin == 0 then column - 1 else block.blankWidth
    lastColumn := block.lineColumn
    lastTextColumn := if block.lineColumn == 0 then block.lastTextColumn else block.lineColumn
    lineColumn := 0
    breakPending := true }

/-- Adds a blank at the front of a line: it counts only behind the margin. -/
def addIndent (block : Block) (column : Int) (draft : Draft) : Block × Draft :=
  if block.margin == 0 || column < block.margin then (block, draft)
  else
    ({ block with breakPending := block.breakPending && block.kind == .literal },
      draft.write ' ' true)

/-- Folds the line break before the first character of a line. -/
def fold (block : Block) (column : Int) (draft : Draft) : Draft :=
  if block.lineColumn == block.lastColumn then
    match draft.written with
    | '\n' :: _ => draft.replaceLast ' '
    | _ => draft
  else if block.lastColumn == 0 && block.lastTextColumn == column then
    match draft.written with
    | '\n' :: '\n' :: _ => draft.dropLast
    | _ => draft
  else draft

/-- Folds a line break that is pending, unless the block is literal. -/
def foldPending (block : Block) (column : Int) (draft : Draft) : Block × Draft :=
  if block.kind == .literal || !block.breakPending then (block, draft)
  else ({ block with breakPending := false }, block.fold column draft)

/-- A number of decimal digits with at most one sign. -/
def signedNumber? (text : List Char) : Option Int :=
  let digits := match text with
    | '+' :: rest | '-' :: rest => rest
    | other => other
  if digits.isEmpty || !digits.all Char.isDigit then none
  else
    let size : Int := digits.foldl (fun value c => 10 * value + (c.toNat - 48)) 0
    some (if text.head? == some '-' then -size else size)

def dropFront (c : Char) : List Char → List Char
  | [] => []
  | first :: rest => if first == c then rest else first :: rest

def dropBack (c : Char) (text : List Char) : List Char := (dropFront c text.reverse).reverse

/-- The depth that the marks of a header give; zero if they give none. -/
def depth? (marks : List Char) : Except Defect Int :=
  let digits := dropBack '+' (dropBack '-' (dropFront '+' (dropFront '-' marks)))
  if digits.isEmpty then .ok 0
  else if digits == ['0'] then .error .badHeader
  else match signedNumber? digits with
    | some depth => if depth > 9 then .error .badHeader else .ok depth
    | none => .error .badHeader

/-- The marks in the rest of a header line, without a comment. -/
def marks (line : List Char) : List Char :=
  let text := trimEnd (· == ' ') line
  let before := text.takeWhile (· != '#')
  trimEnd isGap (if before.isEmpty then text else before)

/-- The block that a header starts when the last delimiter stands at a column. -/
def ofHeader (kind : BlockKind) (line : List Char) (delimiter : Int) : Except Defect Block :=
  let marks := marks line
  match depth? marks with
  | .error defect => .error defect
  | .ok depth =>
      let has := fun c => marks.head? == some c || marks.getLast? == some c
      .ok
        { kind
          dropEnd := has '-'
          keepEnd := has '+'
          depthGiven := depth != 0
          margin := if depth > 0 then delimiter + depth else 0 }

end Block

end ImportSplice.Yaml
