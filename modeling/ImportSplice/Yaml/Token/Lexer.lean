import ImportSplice.Yaml.Token.Block
import ImportSplice.Yaml.Token.Quote

/-!
From characters to tokens.  A lexer reads one character at a time; words are
gathered in a draft and become tokens when a sign, a shallower line or the end of
the text follows them.  Every step takes at least one character, so as many steps
as there are characters are enough.
-/

namespace ImportSplice.Yaml

/-- How a character lies to the last delimiter. -/
inductive Level where
  | unknown
  /-- The first character of a line that is deeper than the delimiter. -/
  | deeper
  /-- The first character of a line that is not deeper than the delimiter. -/
  | shallower
  /-- Not the first character of its line. -/
  | inside
  deriving DecidableEq, Repr

structure Lexer where
  cursor : Cursor := {}
  level : Level := .unknown
  lists : Int := 0
  maps : Int := 0
  previous : Char := '\n'
  draft : Draft := {}
  /-- Where the draft starts, if that is on an earlier line. -/
  draftStart : Option (Nat × Int) := none
  /-- The text of whole lines that is being read. -/
  block : Option Block := none
  /-- Newest first. -/
  tokens : List Token := []

namespace Lexer

def inFlow (lexer : Lexer) : Bool := lexer.lists > 0 || lexer.maps > 0

def spell (lexer : Lexer) (c : Char) : Lexer := { lexer with draft := lexer.draft.spell c }

def advance (lexer : Lexer) (count : Int) : Lexer :=
  { lexer with cursor := lexer.cursor.advance count }

def setDelimiter (lexer : Lexer) (column : Int) : Lexer :=
  { lexer with cursor := { lexer.cursor with delimiter := column } }

def clear (lexer : Lexer) : Lexer := { lexer with draft := {}, block := none }

def push (lexer : Lexer) (mark : Mark) (value : List Char) : Lexer :=
  { lexer with
    tokens :=
      { mark, value, spelling := lexer.draft.spelling.reverse, line := lexer.cursor.line,
        column := lexer.cursor.column } :: lexer.tokens }

/-- A sign of some width, at which a draft is forgotten. -/
def sign (lexer : Lexer) (mark : Mark) (width : Int) : Lexer :=
  ((lexer.push mark []).advance width).clear

def gathered (lexer : Lexer) : List Char :=
  match lexer.block with
  | none => lexer.draft.text
  | some block => block.finish lexer.draft.text

/-- Where the draft starts.  In a block, the column is one if the draft is the
start of its spelling. -/
def draftPlace (lexer : Lexer) : Nat × Int :=
  match lexer.draftStart, lexer.block with
  | some place, _ => place
  | none, none => (lexer.cursor.line, lexer.cursor.column - lexer.draft.size)
  | none, some _ =>
      let written := lexer.draft.written.reverse
      (lexer.cursor.line - written.count '\n',
        if written.isPrefixOf lexer.draft.spelling.reverse then 1 else 0)

/-- Makes a token of the draft, if it holds any text. -/
def cut (lexer : Lexer) : Option Token × Lexer :=
  let text := lexer.gathered
  if text.isEmpty then
    (none, { lexer with draft := lexer.draft.restart, draftStart := none })
  else
    let (line, column) := lexer.draftPlace
    (some
      { mark := if lexer.block.isSome then .text else .word
        value := text
        spelling := lexer.draft.spelling.reverse
        line
        column },
      { lexer with draft := {}, draftStart := none })

def flush (lexer : Lexer) : Lexer :=
  match lexer.cut with
  | (some token, rest) => { rest with tokens := token :: rest.tokens }
  | (none, rest) => rest

/-- Judges the next character by its place in the line. -/
def judge (lexer : Lexer) (c : Char) : Lexer :=
  if !lexer.cursor.atLineStart then { lexer with level := .inside }
  else if isBreak c || c == '\t' then lexer
  else if c == ' ' then
    { lexer with cursor := { lexer.cursor with indent := lexer.cursor.indent + 1 } }
  else
    { lexer with
      cursor := { lexer.cursor with atLineStart := false }
      level :=
        if lexer.cursor.delimiter == 0 then lexer.level
        else if lexer.cursor.delimiter < lexer.cursor.column then .deeper
        else .shallower }

/-- A reader of one character and those after it; `none` if it is a plain one. -/
abbrev Reader := Lexer → List Char → Except Defect (Option (Lexer × List Char))

def plain (lexer : Lexer) (c : Char) : Lexer :=
  { lexer with
    draft := (lexer.draft.add c).spell c
    cursor := lexer.cursor.advance 1 }

/-! ### Blocks -/

def closeBlock (lexer : Lexer) : Lexer := (lexer.push .text lexer.gathered).clear

/-- Leaves a block at a shallower line.  A block without text is an empty text; one
that starts in the first column cannot be left. -/
def leaveBlock (lexer : Lexer) : Except Defect Lexer :=
  match lexer.tokens with
  | [] => .ok { lexer with block := none }
  | last :: _ =>
      if last.column == 1 then .error .badIndentation
      else if last.mark == .text then .ok { lexer with block := none }
      else
        .ok
          { lexer with
            block := none
            tokens :=
              { mark := .text, line := lexer.cursor.line, column := lexer.cursor.column } ::
                lexer.tokens }

def lastOfBlock (lexer : Lexer) (block : Block) (c : Char) : Except Defect Lexer :=
  let column := lexer.cursor.column
  let (grown, draft) :=
    if lexer.cursor.atLineStart && c == ' ' then block.addIndent column lexer.draft
    else (block, lexer.draft.add c)
  let reached := grown.reach column
  if reached.isMisplaced then .error .badIndentation
  else .ok ({ lexer with draft, block := some reached }.closeBlock.advance 1)

def textOfBlock (lexer : Lexer) (block : Block) (c : Char) : Except Defect Lexer :=
  let column := lexer.cursor.column
  let reached := block.reach column
  if block.margin == 0 && block.blankWidth > column then .error .badIndentation
  else if reached.isMisplaced then .error .badIndentation
  else
    let (folded, draft) := reached.foldPending column lexer.draft
    let placed := if reached.margin > 1 then lexer.setDelimiter (reached.margin - 1) else lexer
    .ok ({ placed with draft := draft.addTabbed c, block := some folded }.advance 1)

/-- The end of a line in a block; a line that starts or ends a document ends it. -/
def breakOfBlock (lexer : Lexer) (block : Block) (rest : List Char) : Lexer :=
  let next :=
    { lexer with
      draft := lexer.draft.add '\n'
      block := some (block.endLine lexer.cursor.column)
      cursor := lexer.cursor.nextLine }
  if startsWithDocumentMark rest then next.closeBlock else next

/-- One character of a block.  Every line break counts as a newline. -/
def blockChar (lexer : Lexer) (block : Block) (c : Char) (rest : List Char) :
    Except Defect (Lexer × List Char) :=
  let (spelled, read, rest) := match c, rest with
    | '\r', '\n' :: more => ((lexer.spell '\r').spell '\n', '\n', more)
    | '\r', more => (lexer.spell '\r', '\n', more)
    | other, more => (lexer.spell other, other, more)
  let column := lexer.cursor.column
  let next :=
    if rest.isEmpty then spelled.lastOfBlock block read
    else if read == '\n' then .ok (spelled.breakOfBlock block rest)
    else if lexer.cursor.atLineStart && read == ' ' then
      let (grown, draft) := block.addIndent column spelled.draft
      .ok ({ spelled with draft, block := some grown }.advance 1)
    else if read == '\t' && block.isBeforeText column then
      if lexer.cursor.atLineStart then .error .badIndentation
      else spelled.textOfBlock block read
    else if read == '\t' then
      .ok ({ spelled with draft := spelled.draft.addTabbed read }.advance 1)
    else spelled.textOfBlock block read
  next.map fun after => (after, rest)

/-- The rest of a header line and the text after it.  In the last line of a text,
the last character is not part of the header. -/
def headerLine (rest : List Char) : List Char × List Char :=
  match rest.span fun c => !isBreak c with
  | (line, '\r' :: '\n' :: after) => (line, after)
  | (line, _ :: after) => (line, after)
  | (line, []) => (line.dropLast, [])

def blockHeader (kind : BlockKind) : Reader := fun lexer rest =>
  if lexer.draft.hasText then .ok none
  else
    let (line, after) := headerLine rest
    let placed := if lexer.cursor.column == 1 then lexer.setDelimiter 1 else lexer
    match Block.ofHeader kind line placed.cursor.delimiter with
    | .error defect => .error defect
    | .ok block =>
        let next := placed.push .block []
        .ok (some
          ({ next with
              draft := {}
              block := some block
              level := .inside
              cursor := next.cursor.nextLine }, after))

/-! ### Signs -/

/-- An opening bracket or brace; outside of brackets it can be part of a word. -/
def opening (mark : Mark) (c : Char) (lists maps : Int) : Reader := fun lexer rest =>
  if lexer.draft.hasText && !lexer.inFlow then .ok none
  else
    let next := (lexer.flush.spell c).sign mark 1
    .ok (some ({ next with lists := lexer.lists + lists, maps := lexer.maps + maps }, rest))

def closeMap : Reader := fun lexer rest =>
  if lexer.maps ≤ 0 then .ok none
  else
    .ok (some ({ (lexer.flush.spell '\x7d').sign .mapEnd 1 with maps := lexer.maps - 1 }, rest))

def closeList : Reader := fun lexer rest =>
  if lexer.draft.hasText && lexer.lists ≤ 0 then .ok none
  else .ok (some ({ (lexer.flush.spell ']').sign .listEnd 1 with lists := lexer.lists - 1 }, rest))

def comma : Reader := fun lexer rest =>
  if !lexer.inFlow then .ok none
  else .ok (some ((lexer.flush.spell ',').sign .comma 1, rest))

/-- Whether the cursor is in the first column of an unindented line. -/
def atMargin (lexer : Lexer) : Bool := lexer.cursor.indent == 0 && lexer.cursor.column == 1

/-- Whether exactly `more` further characters like `c` follow. -/
def repeats (c : Char) (more : Nat) (rest : List Char) : Bool :=
  rest.take more == List.replicate more c && (rest.drop more).head? != some c

def documentEnd : Reader := fun lexer rest =>
  if lexer.atMargin && repeats '.' 2 rest then
    .ok (some (lexer.flush.sign .documentEnd 3, rest.drop 2))
  else .ok none

def documentStart (lexer : Lexer) (rest : List Char) : Option (Lexer × List Char) :=
  let ends := ((rest.drop 2).head?.map fun c => isGap c || isBreak c).getD true
  if lexer.atMargin && repeats '-' 2 rest && ends then
    let next := lexer.flush.sign .documentStart 3
    some ({ next with cursor := { next.cursor with delimiter := 0, indent := 0 } }, rest.drop 2)
  else none

/-- Whether a sign is followed by a blank, a line break or nothing. -/
def standsAlone (rest : List Char) : Bool :=
  (rest.head?.map fun c => isGap c || isBreak c).getD true

/-- A dash: three of them start a document, one on a deeper line goes on with a
word, and one before a blank starts an item. -/
def dash : Reader := fun lexer rest =>
  match lexer.documentStart rest with
  | some result => .ok (some result)
  | none =>
      if lexer.draft.hasText then
        if lexer.level == .deeper then
          .ok (some
            ({ lexer.plain '-' with block := some (Block.continuedAt lexer.cursor.column) }, rest))
        else .ok none
      else if standsAlone rest then
        .ok (some (((lexer.setDelimiter lexer.cursor.column).spell '-').sign .item 1, rest))
      else .ok none

def question : Reader := fun lexer rest =>
  if !lexer.draft.hasText && (rest.head?.map isGap).getD false then
    .ok (some ((lexer.setDelimiter lexer.cursor.column).sign .question 1, rest))
  else .ok none

/-- Two signs that merge a mapping, if a colon follows. -/
def mergeName : Reader := fun lexer rest =>
  match (rest.drop 1).dropWhile (· == ' ') with
  | ':' :: next :: _ =>
      if repeats '<' 1 rest && (next == ' ' || isBreak next) then
        .ok (some ((lexer.setDelimiter lexer.cursor.column).sign .merge 2, rest.drop 1))
      else .ok none
  | _ => .ok none

/-- Whether a colon ends a name here. -/
def endsName (lexer : Lexer) (rest : List Char) : Bool :=
  if lexer.cursor.inDirective || lexer.cursor.inLabel then false
  else if lexer.maps ≤ 0 then standsAlone rest
  else rest.head? != some '/' && (lexer.tokens.head?.map fun token => token.mark) != some .colon

/-- Whether a tab stands before the name that is being read. -/
def tabBeforeName (lexer : Lexer) : Bool :=
  let spelled := lexer.draft.spelling.reverse
  let trimmed := if spelled.head? == some ' ' then spelled.tail else spelled
  trimmed.head? == some '\t' && lexer.draft.written.getLast? != some '\t'

def colon : Reader := fun lexer rest =>
  if !lexer.endsName rest then .ok none
  else if lexer.tabBeforeName then .error .badIndentation
  else
    let named : Lexer := match lexer.cut with
      | (some token, next) =>
          { next.setDelimiter token.column with tokens := token :: next.tokens }
      | (none, next) =>
          match next.tokens with
          | last :: _ => if last.mark == .quoted then next.setDelimiter last.column else next
          | [] => next
    .ok (some (named.sign .colon 1, rest))

def directive : Reader := fun lexer rest =>
  if lexer.draft.hasText || lexer.cursor.indent != 0 then .ok none
  else
    let next := (lexer.flush.spell '%').sign .directive 1
    .ok (some ({ next with cursor := { next.cursor with inDirective := true } }, rest))

/-- The sign before the name of an anchor or reference. -/
def label (mark : Mark) (c : Char) : Reader := fun lexer rest =>
  if lexer.draft.hasText then .ok none
  else
    let next := (lexer.spell c).sign mark 1
    .ok (some ({ next with cursor := { next.cursor with inLabel := true } }, rest))

def comment : Reader := fun lexer rest =>
  if lexer.draft.hasText && !(isGap lexer.previous || isBreak lexer.previous) then .ok none
  else
    let next := lexer.flush.sign .comment 1
    let after := (rest.dropWhile fun c => !isBreak c).drop 1
    .ok (some ({ next with cursor := next.cursor.nextLine }, after))

def quotation (lexer : Lexer) (read : Except Defect Quotation) :
    Except Defect (Option (Lexer × List Char)) :=
  read.map fun quoted =>
    let token : Token :=
      { mark := .quoted, value := quoted.value, spelling := quoted.spelling.reverse,
        line := lexer.cursor.line, column := lexer.cursor.column }
    some
      ({ lexer.clear with cursor := quoted.cursor, tokens := token :: lexer.tokens }, quoted.rest)

def singleQuote : Reader := fun lexer rest =>
  if lexer.draft.hasText then .ok none
  else
    lexer.quotation
      (Quotation.single lexer.cursor [] ('\x27' :: lexer.draft.spelling) false false rest)

def doubleQuote : Reader := fun lexer rest =>
  if lexer.draft.hasText then .ok none
  else
    lexer.quotation
      (Quotation.double lexer.cursor [] ('\x22' :: lexer.draft.spelling) false false 0 rest)

/-- A sign that starts no word. -/
def reserved : Reader := fun lexer _ =>
  if lexer.draft.hasText then .ok none else .error .badScalar

/-! ### Blanks and line breaks -/

/-- A space is plain inside a line; at its front it is only counted, and it ends
the name of an anchor or reference and a word of a directive. -/
def space : Reader := fun lexer rest =>
  if lexer.cursor.atLineStart then .ok (some ((lexer.spell ' ').advance 1, rest))
  else if lexer.cursor.inDirective then .ok (some ((lexer.flush.spell ' ').advance 1, rest))
  else if lexer.cursor.inLabel then
    let next := lexer.flush
    .ok (some
      ({ next with cursor := { next.cursor with inLabel := false } }.plain ' ', rest))
  else .ok none

/-- A tab behind the last delimiter is dropped; one at the front of a line stands
where only spaces may. -/
def tab : Reader := fun lexer rest =>
  let cursor := lexer.cursor
  if (lexer.draft.hasText && cursor.delimiter == 0) || cursor.delimiter < cursor.column then
    .ok (some
      ({ lexer.spell '\t' with cursor := { cursor with indent := cursor.indent + 1 } }, rest))
  else if cursor.atLineStart && !lexer.inFlow then .error .badIndentation
  else .ok none

/-- The draft of a word at the end of a line: a line break stands for a space, and
on an empty line for a newline. -/
def breakDraft (lexer : Lexer) : Draft :=
  let draft := lexer.draft
  if draft.hasText && lexer.cursor.atLineStart then
    match draft.written with
    | ' ' :: _ => draft.replaceLast '\n'
    | _ => draft.write '\n' false
  else draft.add ' '

def lineBreak (c : Char) : Reader := fun lexer rest =>
  let start :=
    if lexer.draft.size != 0 && lexer.draftStart.isNone then
      some (lexer.cursor.line, lexer.cursor.column - lexer.draft.kept)
    else lexer.draftStart
  let trimmed := { lexer with draft := lexer.draft.trimLine, draftStart := start }
  let (spelled, c, rest) := match c, rest with
    | '\r', '\n' :: more => (trimmed.spell '\r', '\n', more)
    | other, more => (trimmed, other, more)
  let settled :=
    if rest.isEmpty || lexer.cursor.inLabel || lexer.cursor.inDirective then spelled.flush
    else spelled
  .ok (some
    ({ settled with
        draft := settled.breakDraft.spell c
        cursor := settled.cursor.nextLine }, rest))

/-! ### The whole text -/

def meaning (c : Char) : Reader :=
  match c with
  | '\x7b' => opening .mapStart c 0 1
  | '\x7d' => closeMap
  | '[' => opening .listStart c 1 0
  | ']' => closeList
  | ',' => comma
  | '.' => documentEnd
  | '<' => mergeName
  | '-' => dash
  | ':' => colon
  | '|' => blockHeader .literal
  | '>' => blockHeader .folded
  | '!' | '@' | '\x60' => reserved
  | '%' => directive
  | '?' => question
  | '&' => label .anchor c
  | '*' => label .reference c
  | '#' => comment
  | '\x27' => singleQuote
  | '\x22' => doubleQuote
  | '\n' | '\r' => lineBreak c
  | ' ' => space
  | '\t' => tab
  | _ => fun _ _ => .ok none

def freeChar (lexer : Lexer) (c : Char) (rest : List Char) : Except Defect (Lexer × List Char) :=
  match meaning c lexer rest with
  | .error defect => .error defect
  | .ok (some result) => .ok result
  | .ok none => .ok (lexer.plain c, rest)

def step (lexer : Lexer) (c : Char) (rest : List Char) : Except Defect (Lexer × List Char) :=
  let judged : Lexer := lexer.judge c
  let current : Lexer := if judged.level == .shallower then judged.flush else judged
  let result : Except Defect (Lexer × List Char) := match current.block with
    | none => current.freeChar c rest
    | some block =>
        if current.level == .shallower then
          match current.leaveBlock with
          | .error defect => .error defect
          | .ok left => left.freeChar c rest
        else current.blockChar block c rest
  result.map fun (next, rest) => ({ next with previous := c }, rest)

/-- Reads a text in at most a number of steps. -/
def run (lexer : Lexer) : (steps : Nat) → List Char → Except Defect Lexer
  | 0, _ => .ok lexer.flush
  | _ + 1, [] => .ok lexer.flush
  | steps + 1, c :: rest =>
      match lexer.step c rest with
      | .error defect => .error defect
      | .ok (next, rest) => next.run steps rest

end Lexer

/-- The tokens of a text, without its comments. -/
def Token.scan (text : List Char) : Except Defect (List Token) :=
  (({} : Lexer).run text.length text).map fun lexer =>
    lexer.tokens.reverse.filter fun token => token.mark != .comment

end ImportSplice.Yaml
