import ImportSplice.Fault
import ImportSplice.Yaml.Node.Layout
import ImportSplice.Yaml.Token.Lexer

/-!
Reading the settings in a text.  Every document of the text must be sound, but only
the first one that has a value counts.
-/

namespace ImportSplice.Yaml

structure Document where
  entries : List (Bytes × Node) := []
  anchors : Anchors := []

namespace Document

/-- The characters of a text; a byte that belongs to none is replaced. -/
def characters (text : Bytes) : List Char :=
  (Utf8.pieces text).map fun
    | .char point => Char.ofNat point
    | .stray _ => Char.ofNat 0xFFFD

/-- Whether a document counts: it has a value, or says itself that it has none. -/
def counts (anchors : Anchors) (groups : List Group) (node : Node) : Bool :=
  match node, groups with
  | .scalar _, [.directive _ _] => false
  | .scalar _, _ => true
  | _, _ => !node.isNothing anchors

/-- The values of the documents that count, after those already found (newest
first), and the anchors known after them. -/
def values (anchors : Anchors) (found : List Node) :
    List (List Group) → Except Defect (List Node × Anchors)
  | [] => .ok (found.reverse, anchors)
  | groups :: rest =>
      match Node.ofGroups groups with
      | .error defect => .error defect
      | .ok node =>
          match node.collect anchors with
          | .error defect => .error defect
          | .ok known =>
              values known (if counts known groups node then node :: found else found) rest

/-- The text of a name; `none` if the name is not a text. -/
def name? (anchors : Anchors) (node : Node) : Option Bytes :=
  match anchors.target node with
  | .scalar scalar | .anchored _ (.scalar scalar) => if scalar.isText then scalar.text? else none
  | _ => none

/-- Adds names with their values to others; no name may come twice. -/
def extend (found : List (Bytes × Node)) :
    List (Bytes × Node) → Except Defect (List (Bytes × Node))
  | [] => .ok found
  | (name, node) :: rest =>
      if (found.lookup name).isSome then .error .duplicateName
      else extend ((name, node) :: found) rest

/-- The names of a mapping with their values, after those already found; `none` if
a name is not a text.  `merged` reads a mapping that is merged into this one. -/
def gather (anchors : Anchors) (merged : Node → Except Defect (Option (List (Bytes × Node))))
    (found : List (Bytes × Node)) :
    List (Node × Node) → Except Defect (Option (List (Bytes × Node)))
  | [] => .ok (some found)
  | (.merge, node) :: rest =>
      match merged node with
      | .error defect => .error defect
      | .ok inner =>
          match extend found (inner.getD []) with
          | .error defect => .error defect
          | .ok longer => gather anchors merged longer rest
  | (name, node) :: rest =>
      match name? anchors name with
      | none => .ok none
      | some text =>
          match extend found [(text, node)] with
          | .error defect => .error defect
          | .ok longer => gather anchors merged longer rest

/-- The names of a node that is a mapping, with mappings merged at most so deep. -/
def fields (anchors : Anchors) :
    (depth : Nat) → Node → Except Defect (Option (List (Bytes × Node)))
  | 0, _ => .error .tooDeep
  | depth + 1, node =>
      match anchors.entries? node with
      | some entries => gather anchors (fields anchors depth) [] entries
      | none => .error .wrongType

/-- The first document of a text that counts.  If a name in it is not a text, it
defines nothing. -/
def read (text : Bytes) : Except Defect Document :=
  match (Token.scan (characters text)).bind Group.ofTokens with
  | .error defect => .error defect
  | .ok groups =>
      match (Group.documents groups).bind (values [] []) with
      | .error defect => .error defect
      | .ok ([], anchors) => .ok { anchors }
      | .ok (node :: _, anchors) =>
          (fields anchors Layout.maxDepth node).map fun entries =>
            { entries := entries.getD [], anchors }

def get? (document : Document) (name : Bytes) : Option Node := document.entries.lookup name

end Document

/-- The size of the largest text that is read. -/
def maxSize : Nat := 1048576

def Defect.toFault (defect : Defect) : Fault := .text (ascii "yamlutil: " ++ defect.message)

/-- The document of a text that defines nothing but known names.  Without names
to fill there is nothing to read. -/
def decode (limit : Nat) (known : Option (List Bytes)) (text : Bytes) : Except Fault Document :=
  if text.isEmpty then .error (.kind .emptyInput)
  else if text.length > limit then
    .error (.cite .inputTooLarge (.text (Bytes.decimal text.length ++ ascii " bytes (max " ++
      Bytes.decimal limit ++ ascii ")")))
  else match known with
    | none => .error (.kind .noDestination)
    | some names =>
        match Document.read text with
        | .error defect => .error defect.toFault
        | .ok document =>
            if document.entries.all fun entry => names.contains entry.1 then .ok document
            else .error Defect.unknownName.toFault

end ImportSplice.Yaml
