import ImportSplice.Text.Utf8

/-!
Tokens of a YAML text: words and texts, and the signs between them, each with the
place where it starts.
-/

namespace ImportSplice.Yaml

inductive Mark where
  /-- A word without quotes, which may stand for a number or another value. -/
  | word
  /-- A text of whole lines. -/
  | text
  | quoted
  /-- The header of a block scalar. -/
  | block
  | anchor
  | reference
  | directive
  /-- The name that merges another mapping. -/
  | merge
  | item
  | question
  | colon
  | comma
  | listStart
  | listEnd
  | mapStart
  | mapEnd
  | documentStart
  | documentEnd
  | comment
  deriving DecidableEq, Repr

def Mark.isScalar : Mark → Bool
  | word | text | quoted | block | anchor | reference => true
  | _ => false

def Mark.isNoName : Mark → Bool
  | directive | item | colon | comma | listStart | listEnd | mapStart | mapEnd | documentStart |
    documentEnd => true
  | _ => false

structure Token where
  mark : Mark
  value : List Char := []
  /-- The characters as they stand in the text, with what came before them. -/
  spelling : List Char := []
  line : Nat
  column : Int
  deriving DecidableEq, Repr

def isGap (c : Char) : Bool := c == ' ' || c == '\t'

def isBreak (c : Char) : Bool := c == '\n' || c == '\r'

def encoded (text : List Char) : Bytes := text.flatMap fun c => Utf8.encode c.toNat

def trimEnd (drop : Char → Bool) (text : List Char) : List Char :=
  (text.reverse.dropWhile drop).reverse

/-- Whether a text starts with a line that starts or ends a document. -/
def startsWithDocumentMark (text : List Char) : Bool :=
  let front := text.take 3
  (front == ['-', '-', '-'] || front == ['.', '.', '.']) &&
    (((text.drop 3).head?.map fun c => isGap c || isBreak c).getD true)

end ImportSplice.Yaml
