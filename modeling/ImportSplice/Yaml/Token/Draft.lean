import ImportSplice.Yaml.Token

/-!
The characters gathered for the next token.  Blanks count only if more follows
them, so a draft knows how many of its characters are kept.  When a draft without
text is started afresh, the number of kept characters stays, and until it is
overwritten the old content counts again.
-/

namespace ImportSplice.Yaml

structure Draft where
  /-- Newest first. -/
  written : List Char := []
  size : Nat := 0
  kept : Nat := 0
  /-- Old content behind the written one. -/
  stale : List Char := []
  /-- The characters as they stand in the text, newest first. -/
  spelling : List Char := []

namespace Draft

def hasText (draft : Draft) : Bool := draft.kept != 0

def keptText (draft : Draft) : List Char :=
  if draft.kept ≤ draft.size then draft.written.drop (draft.size - draft.kept)
  else ((draft.written.reverse ++ draft.stale).take draft.kept).reverse

def text (draft : Draft) : List Char := draft.keptText.reverse

/-- Writes a character; if it counts, it and all before it are kept. -/
def write (draft : Draft) (c : Char) (counts : Bool) : Draft :=
  { draft with
    written := c :: draft.written
    size := draft.size + 1
    kept := if counts then draft.size + 1 else draft.kept
    stale := draft.stale.tail }

/-- Adds a character of a line; blanks at the front are left out. -/
def add (draft : Draft) (c : Char) : Draft :=
  if draft.size == 0 && isGap c then draft else draft.write c (!isGap c)

/-- Adds a character of a text in which tabs count. -/
def addTabbed (draft : Draft) (c : Char) : Draft :=
  if draft.size == 0 && c == ' ' then draft else draft.write c (c != ' ')

/-- Puts a character in place of the last one. -/
def replaceLast (draft : Draft) (c : Char) : Draft :=
  { draft with written := c :: draft.written.tail }

/-- Takes the last character away and keeps all before it. -/
def dropLast (draft : Draft) : Draft :=
  { draft with
    written := draft.written.tail
    size := draft.size - 1
    kept := draft.size - 1 }

def spell (draft : Draft) (c : Char) : Draft :=
  { draft with spelling := c :: draft.spelling }

/-- Drops the blanks before a line break, if there are any. -/
def trimLine (draft : Draft) : Draft :=
  if (draft.spelling.head?.map isGap).getD false then
    { draft with
      written := draft.keptText
      size := draft.kept
      stale := []
      spelling := draft.spelling.dropWhile isGap }
  else draft

def restart (draft : Draft) : Draft :=
  { draft with
    written := []
    size := 0
    stale := draft.written.reverse ++ draft.stale }

end Draft

end ImportSplice.Yaml
