import ImportSplice.Number.Spelling
import ImportSplice.Settings.Config
import ImportSplice.Yaml.Timestamp

/-!
A configuration as a YAML document.  A text is written bare where a reader would
take it for the same text, in a block if it has several lines, and in quotes
otherwise.
-/

namespace ImportSplice.Yaml

/-- Words that stand for a missing value or a truth value. -/
def reserved : List Bytes :=
  ["null", "Null", "NULL", "~", "true", "True", "TRUE", "false", "False", "FALSE", "y", "Y",
    "yes", "Yes", "YES", "n", "N", "no", "No", "NO", "on", "On", "ON", "off", "Off", "OFF"].map
    ascii

/-- Bytes that mean something at the start of a value. -/
def indicators : Bytes := ascii "*&[\x7b\x7d],!|>%'\"@ \x60"

/-- Whether a bare text would be cut or split somewhere inside. -/
def breaksInside : Bytes → Bool
  | [] => false
  | byte :: rest =>
      byte == 35 || byte == 92 || ((byte == 58 || byte == 45) && rest.head? == some 32) ||
        breaksInside rest

def needsQuotes (text : Bytes) : Bool :=
  text.isEmpty || reserved.contains text || Number.read text != .word || text == [45] ||
    (text.head?.map fun byte => indicators.contains byte).getD false ||
    text.getLast? == some 58 || text.getLast? == some 32 ||
    Timestamp.isTimestamp text || breaksInside text

def lineBreak (text : Bytes) : Bytes :=
  let feeds := text.count 10
  let returns := text.count 13
  let pairs := (text.zip (text.drop 1)).count (13, 10)
  if feeds == pairs && returns == pairs then [13, 10]
  else if returns > feeds then [13]
  else [10]

def splitBy (separator : Bytes) : (fuel : Nat) → (piece : Bytes) → Bytes → List Bytes
  | 0, piece, text => [piece.reverse ++ text]
  | _ + 1, piece, [] => [piece.reverse]
  | fuel + 1, piece, byte :: rest =>
      if separator.isPrefixOf (byte :: rest) then
        piece.reverse :: splitBy separator fuel [] ((byte :: rest).drop separator.length)
      else splitBy separator fuel (byte :: piece) rest

def dropEnd (tail text : Bytes) : Bytes :=
  if tail.isSuffixOf text then text.take (text.length - tail.length) else text

/-- A text of several lines below a header that says how it ends. -/
def block (margin ending text : Bytes) : Bytes :=
  let header :=
    if (ending ++ ending).isSuffixOf text then ascii "|+"
    else if ending.isSuffixOf text then ascii "|"
    else ascii "|-"
  let lines := (splitBy ending text.length [] text).map (margin ++ ·)
  header ++ ending ++
    dropEnd margin (dropEnd (ending ++ margin) (Bytes.joinWith ending lines))

/-- A text as a value; the lines of a block are indented by `margin`. -/
def scalar (margin text : Bytes) : Bytes :=
  if needsQuotes text then quoted text
  else
    let ending := lineBreak text
    if Bytes.occursIn ending text then block margin ending text else text

def dropStart (front text : Bytes) : Bytes :=
  if front.isPrefixOf text then text.drop front.length else text

/-- A later line of a list item, which stands behind the margin unless it is
empty. -/
def itemLine (margin line : Bytes) : Bytes :=
  let inner := dropStart margin line
  if inner.isEmpty then [] else margin ++ inner

/-- An item of a list.  Every line of it after the first is set behind the margin. -/
def item (text : Bytes) : Bytes :=
  let margin := ascii "    "
  match Bytes.splitOn 10 (scalar margin text) with
  | [] => ascii "  - "
  | first :: more =>
      ascii "  - " ++ Bytes.joinWith [10] (first :: more.map (itemLine margin)) ++ [10]

def encode (config : Config) : Bytes :=
  ascii "marker: " ++ scalar (ascii "  ") config.marker ++ [10] ++
    if config.imports.isEmpty then ascii "imports: []\n"
    else ascii "imports:\n" ++ config.imports.flatMap item

end ImportSplice.Yaml
