import ImportSplice.Yaml.Defect
import ImportSplice.Yaml.Token

/-!
Tokens that belong together: a header with its text, an anchor with its name and
value, a name with its colon, and a name with a value on its line.  Each kind is
gathered in a pass of its own over the groups of the passes before.
-/

namespace ImportSplice.Yaml

inductive Group where
  | single (token : Token)
  | block (header : Token) (content : Option Group)
  /-- An anchor whose value stands elsewhere. -/
  | anchor (mark : Token) (name : Group)
  /-- An anchor before a scalar on its line. -/
  | anchored (mark : Token) (name value : Group)
  | reference (mark : Token) (name : Group)
  /-- A name after a question mark. -/
  | question (mark : Token) (name : Group)
  /-- A name before a colon. -/
  | name (name : Group) (colon : Token)
  | pair (name value : Group)
  /-- A directive with the words on its line. -/
  | directive (mark : Token) (words : List Group)

namespace Group

def first : Group → Token
  | single token => token
  | block header _ => header
  | anchor mark _ => mark
  | anchored mark _ _ => mark
  | reference mark _ => mark
  | question mark _ => mark
  | name inner _ => inner.first
  | pair inner _ => inner.first
  | directive mark _ => mark

def mark (group : Group) : Mark := group.first.mark
def line (group : Group) : Nat := group.first.line
def column (group : Group) : Int := group.first.column

def isName : Group → Bool
  | question _ _ | name _ _ => true
  | _ => false

/-- Whether a group belongs to a mapping. -/
def isEntry : Group → Bool
  | question _ _ | name _ _ | pair _ _ => true
  | _ => false

def isAnchor : Group → Bool
  | anchor _ _ => true
  | _ => false

def isSingle (mark : Mark) : Group → Bool
  | single token => token.mark == mark
  | _ => false

/-- Whether a group is a scalar or starts one. -/
def isScalar (group : Group) : Bool := !group.isEntry && group.mark.isScalar

/-- Block scalars, after the groups already found (newest first). -/
def blocksOnto (found : List Group) : List Group → List Group
  | [] => found.reverse
  | [group] => ((if group.mark == .block then block group.first none else group) :: found).reverse
  | group :: content :: rest =>
      if group.mark == .block then blocksOnto (block group.first (some content) :: found) rest
      else blocksOnto (group :: found) (content :: rest)

/-- Anchors and references, after the groups already found. -/
def labelsOnto (found : List Group) : List Group → Except Defect (List Group)
  | [] => .ok found.reverse
  | group :: rest =>
      if group.mark == .anchor then
        match rest with
        | label :: tail@(value :: more) =>
            if group.line == value.line && value.mark == .item then .error .badAnchor
            else if group.line == value.line && value.isScalar then
              labelsOnto (anchored group.first label value :: found) more
            else labelsOnto (anchor group.first label :: found) tail
        | _ => .error .badAnchor
      else if group.mark == .reference then
        match rest with
        | label :: more => labelsOnto (reference group.first label :: found) more
        | [] => .error .unknownAnchor
      else labelsOnto (group :: found) rest

/-- Names after question marks, after the groups already found. -/
def questionsOnto (found : List Group) : List Group → Except Defect (List Group)
  | [] => .ok found.reverse
  | group :: rest =>
      if group.mark != .question then questionsOnto (group :: found) rest
      else match rest with
        | label :: more => questionsOnto (question group.first label :: found) more
        | [] => .error .missingColon

/-- Names before colons, after the groups already found. -/
def namesOnto (found : List Group) : List Group → Except Defect (List Group)
  | [] => .ok found.reverse
  | group :: rest =>
      if group.mark != .colon then namesOnto (group :: found) rest
      else match found with
        | [] => .error .missingColon
        | name _ _ :: _ => .error .missingColon
        | label :: before =>
            if label.mark.isNoName then .error .missingColon
            else namesOnto (name label group.first :: before) rest

/-- Names with scalars on their lines, after the groups already found. -/
def pairsOnto (found : List Group) : List Group → List Group
  | [] => found.reverse
  | [group] => (group :: found).reverse
  | group :: value :: rest =>
      if group.isName && group.line == value.line && !value.isAnchor && value.isScalar then
        pairsOnto (pair group value :: found) rest
      else pairsOnto (group :: found) (value :: rest)

/-- Directives, after the groups already found.  The words of one are the groups on
its line, and a document must start behind them. -/
def directivesOnto (found : List Group) : (steps : Nat) → List Group → Except Defect (List Group)
  | 0, _ => .ok found.reverse
  | _ + 1, [] => .ok found.reverse
  | steps + 1, group :: rest =>
      if group.mark != .directive then directivesOnto (group :: found) steps rest
      else
        let words := rest.take 1 ++ (rest.drop 1).takeWhile fun word => word.line == group.line
        let after := (rest.drop 1).dropWhile fun word => word.line == group.line
        match words, after with
        | [], _ => directivesOnto (directive group.first [] :: found) steps after
        | _, next :: _ =>
            if next.mark == .documentStart then
              directivesOnto (directive group.first words :: found) steps after
            else .error .badDirective
        | _, [] => .error .badDirective

def ofTokens (tokens : List Token) : Except Defect (List Group) := do
  let labelled ← labelsOnto [] (blocksOnto [] (tokens.map single))
  let asked ← questionsOnto [] labelled
  let named ← namesOnto [] asked
  directivesOnto [] tokens.length (pairsOnto [] named)

/-- Documents with one more, if it has any content; both are kept newest first. -/
def finish (done : List (List Group)) (current : List Group) : List (List Group) :=
  if current.isEmpty then done else current.reverse :: done

/-- The documents of a list of groups: `done` are those already found and `current`
the groups of the one being read, both newest first.  `opened` says that a mark has
started a document and nothing came since.  Where two documents start at once, the
list ends; where the first of them is also ended, the second mark is out of place. -/
def documentsOnto (done : List (List Group)) (current : List Group) (opened : Bool) :
    List Group → Except Defect (List (List Group))
  | [] => .ok (finish done current).reverse
  | group :: rest =>
      if group.mark == .documentStart then
        if opened && current.isEmpty then .error .trailingText
        else match rest with
          | [] => .ok (finish done current).reverse
          | next :: _ =>
              if next.mark == .documentStart then .ok (finish done current).reverse
              else if group.line == next.line && (next.isEntry || next.mark == .item) then
                .error .trailingText
              else documentsOnto (finish done current) [] true rest
      else if group.mark == .documentEnd then
        if (rest.head?.map isScalar).getD false then .error .trailingText
        else documentsOnto (finish done current) [] (opened && current.isEmpty) rest
      else documentsOnto done (group :: current) opened rest

def documents (groups : List Group) : Except Defect (List (List Group)) :=
  documentsOnto [] [] false groups

end Group

end ImportSplice.Yaml
