import ImportSplice.Yaml.Group
import ImportSplice.Yaml.Node

/-!
From groups to values.  The columns of names and dashes say what belongs to what;
between brackets, signs do.  A reader of values is built from the readers of values
one level down, so nesting is limited by a depth, and every loop by a number of
steps.
-/

namespace ImportSplice.Yaml

/-- A value with the groups that follow it. -/
abbrev Layout := Except Defect (Node × List Group)

namespace Layout

/-- How a value is read: whether it stands between brackets, and its groups. -/
abbrev ValueReader := Bool → List Group → Layout

def tokenScalar (token : Token) : Except Defect Node :=
  match token.mark with
  | .word => .ok (.scalar (.bare (encoded token.value)))
  | .text | .quoted => .ok (.scalar (.verbatim (encoded token.value)))
  | .merge => .ok .merge
  | _ => .error .badScalar

/-- The text of a block scalar; without lines it is empty. -/
def blockScalar : Option Group → Except Defect Node
  | none => .ok (.scalar (.verbatim []))
  | some (.single token) =>
      if token.mark == .text then .ok (.scalar (.verbatim (encoded token.value)))
      else .error .badScalar
  | some _ => .error .badScalar

def labelText : Group → Except Defect Bytes
  | .single token => (tokenScalar token).map fun _ => encoded token.value
  | _ => .error .badAnchor

def scalar : Group → Except Defect Node
  | .single token => tokenScalar token
  | .block _ content => blockScalar content
  | .reference _ name => (labelText name).map Node.reference
  | .anchored _ name value =>
      match labelText name, scalar value with
      | .ok label, .ok node =>
          if node.isAnchored then .error .badAnchor else .ok (.anchored label node)
      | .error defect, _ => .error defect
      | _, .error defect => .error defect
  | _ => .error .badScalar

/-- The text by which names in a mapping are told apart. -/
def nameText : Node → Bytes
  | .scalar scalar => scalar.written
  | .anchored _ value => nameText value
  | .merge => ascii "<<"
  | _ => []

/-- Whether the spelling of a name goes on over a line break.  Between brackets,
only a text may be followed by one. -/
def isBroken (inFlow : Bool) (token : Token) : Bool :=
  let isEdge := fun c => c == ' ' || isBreak c
  let isText := match token.mark with
    | .word => (Scalar.bare (encoded token.value)).isText
    | .text => true
    | _ => false
  let started := token.spelling.dropWhile isEdge
  (if inFlow && !isText then started else trimEnd isEdge started).contains '\n'

/-- The node of a name that waits for its value or has one. -/
def nameNode : Group → Except Defect Node
  | .question _ inner => scalar inner
  | .name (.question _ inner) _ => scalar inner
  | .name inner _ => scalar inner
  | _ => .error .missingColon

/-- Reads a name that none of `seen` is. -/
def freshName (inFlow : Bool) (seen : List Bytes) (group : Group) : Except Defect Node :=
  match nameNode group with
  | .error defect => .error defect
  | .ok node =>
      if seen.contains (nameText node) then .error .duplicateName
      else if isBroken inFlow group.first then .error .brokenName
      else .ok node

/-- An anchor on the line of its delimiter whose value is missing. -/
def emptyAnchor (name : Group) (rest : List Group) : Layout :=
  (labelText name).map fun label => (.anchored label .nothing, rest)

def nameValue (value : ValueReader) (inFlow : Bool) (name : Group) (groups : List Group) :
    Layout :=
  match groups with
  | [] => .ok (.nothing, [])
  | group :: rest =>
      let besides := group.line == name.line
      if group.column != name.column && besides && group.isEntry then .error .trailingText
      else if group.column == name.column &&
          (group.isEntry || group.isSingle .mapStart || group.isSingle .mapEnd) then
        .ok (.nothing, groups)
      else
        match group with
        | .anchor _ label =>
            let nextColumn := (rest.head?.map Group.column).getD 0
            let nextIsEntry := (rest.head?.map fun next =>
              next.isEntry || next.isSingle .mapStart || next.isSingle .mapEnd).getD false
            if besides && nextColumn == name.column && nextIsEntry then emptyAnchor label rest
            else if group.column ≤ name.column then .error .badAnchor
            else if besides && nextColumn < name.column then emptyAnchor label rest
            else value inFlow groups
        | _ =>
            if group.column < name.column then .ok (.nothing, groups) else value inFlow groups

def itemValue (value : ValueReader) (inFlow : Bool) (dash : Group) (groups : List Group) :
    Layout :=
  match groups with
  | [] => .ok (.nothing, [])
  | group :: rest =>
      let besides := group.line == dash.line
      if group.column == dash.column && group.isSingle .item then .ok (.nothing, groups)
      else
        match group with
        | .anchor _ label =>
            let nextColumn := (rest.head?.map Group.column).getD 0
            let nextIsItem := (rest.head?.map fun next => next.isSingle .item).getD false
            if besides && nextColumn == dash.column && nextIsItem then emptyAnchor label rest
            else if group.column ≤ dash.column then .error .badAnchor
            else if besides && nextColumn < dash.column then emptyAnchor label rest
            else value inFlow groups
        | _ =>
            if group.column < dash.column then .ok (.nothing, groups) else value inFlow groups

/-- The items of a list whose dashes stand in one column; `items` are those read
before, newest first. -/
def items (value : ValueReader) (inFlow : Bool) (column : Int) (found : List Node) :
    (steps : Nat) → List Group → Layout
  | 0, groups => .ok (.list found.reverse, groups)
  | _ + 1, [] => .ok (.list found.reverse, [])
  | steps + 1, group :: rest =>
      if group.isSingle .item && group.column == column then
        match itemValue value inFlow group rest with
        | .error defect => .error defect
        | .ok (node, after) => items value inFlow column (node :: found) steps after
      else .ok (.list found.reverse, group :: rest)

/-- Whether a group may follow a name with a value on its line. -/
def followsPair (inFlow : Bool) (column : Int) : List Group → Bool
  | [] => true
  | next :: _ =>
      next.column ≤ column || (inFlow && (next.isSingle .comma || next.isSingle .listEnd))

def entry (value : ValueReader) (inFlow : Bool) (seen : List Bytes) (group : Group)
    (rest : List Group) : Except Defect ((Node × Node) × List Group) :=
  match group with
  | .pair name inner =>
      match freshName inFlow seen name, value inFlow [inner] with
      | .ok node, .ok (held, _) =>
          if followsPair inFlow group.column rest then .ok ((node, held), rest)
          else .error .badIndentation
      | .error defect, _ => .error defect
      | _, .error defect => .error defect
  | _ =>
      match freshName inFlow seen group with
      | .error defect => .error defect
      | .ok node =>
          let isItem := (rest.head?.map fun next =>
            next.line == group.line && next.isSingle .item).getD false
          if isItem then .error .trailingText
          else (nameValue value inFlow group rest).map fun (held, after) => ((node, held), after)

/-- The entries of a mapping whose names stand in one column; `found` are those
read before, newest first. -/
def entries (value : ValueReader) (inFlow : Bool) (column : Int) (seen : List Bytes)
    (found : List (Node × Node)) : (steps : Nat) → List Group → Layout
  | 0, groups => .ok (.map found.reverse, groups)
  | _ + 1, [] => .ok (.map found.reverse, [])
  | steps + 1, group :: rest =>
      if group.column != column || (inFlow && group.isSingle .listEnd) then
        .ok (.map found.reverse, group :: rest)
      else if group.isSingle .mapEnd then .ok (.map found.reverse, rest)
      else if !group.isEntry then .error .badIndentation
      else
        match entry value inFlow seen group rest with
        | .error defect => .error defect
        | .ok (pair, after) =>
            entries value inFlow column (nameText pair.1 :: seen) (pair :: found) steps after

/-- The items of a list in brackets; `found` are those read before, newest first. -/
def flowItems (value : ValueReader) (found : List Node) : (steps : Nat) → List Group → Layout
  | 0, _ => .error .unclosed
  | _ + 1, [] => .error .unclosed
  | steps + 1, group :: rest =>
      if group.isSingle .listEnd then .ok (.list found.reverse, rest)
      else if group.isSingle .comma != !found.isEmpty then
        .error (if found.isEmpty then .emptyItem else .missingComma)
      else
        match (if found.isEmpty then group :: rest else rest) with
        | [] => .error .unclosed
        | next :: more =>
            if next.isSingle .listEnd then .ok (.list found.reverse, more)
            else
              match value true (next :: more) with
              | .error defect => .error defect
              | .ok (node, after) => flowItems value (node :: found) steps after

def endsEntry (group : Group) : Bool := group.isSingle .comma || group.isSingle .mapEnd

/-- One entry in braces, with the text of a name that must not come again. -/
def flowEntry (value : ValueReader) (seen : List Bytes) (group : Group) (rest : List Group) :
    Except Defect ((Node × Node) × List Bytes × List Group) :=
  let ends := (rest.head?.map endsEntry).getD false
  match group with
  | .pair name inner =>
      match freshName true seen name, value true [inner] with
      | .ok node, .ok (held, _) => .ok ((node, held), nameText node :: seen, rest)
      | .error defect, _ => .error defect
      | _, .error defect => .error defect
  | _ =>
      if group.isName then
        match freshName true seen group with
        | .error defect => .error defect
        | .ok node =>
            let names := nameText node :: seen
            if ends then .ok ((node, .nothing), names, rest)
            else if rest.isEmpty then .error .unclosed
            else (value true rest).map fun (held, after) => ((node, held), names, after)
      else if ends then (scalar group).map fun node => ((node, .nothing), seen, rest)
      else .error .missingColon

/-- The entries of a mapping in braces; `found` are those read before, newest
first. -/
def flowEntries (value : ValueReader) (seen : List Bytes) (found : List (Node × Node)) :
    (steps : Nat) → List Group → Layout
  | 0, _ => .error .unclosed
  | _ + 1, [] => .error .unclosed
  | steps + 1, group :: rest =>
      if group.isSingle .mapEnd then .ok (.map found.reverse, rest)
      else if !group.isSingle .comma && !found.isEmpty then .error .missingComma
      else
        match (if group.isSingle .comma then rest else group :: rest) with
        | [] => .error .unclosed
        | next :: more =>
            if next.isSingle .mapEnd then .ok (.map found.reverse, more)
            else
              match flowEntry value seen next more with
              | .error defect => .error defect
              | .ok (pair, names, after) =>
                  flowEntries value names (pair :: found) steps after

/-- The versions that a directive can name. -/
def versions : List Bytes := [ascii "1.0", ascii "1.1", ascii "1.2", ascii "1.3"]

/-- A directive has no value, but the one that names the version must name one. -/
def directive (words : List Group) : Except Defect Node :=
  let texts := words.map fun word => encoded word.first.value
  match texts with
  | [] => .error .badDirective
  | name :: more =>
      if name == ascii "YAML" then
        match more with
        | [version] => if versions.contains version then .ok .nothing else .error .badDirective
        | _ => .error .badDirective
      else if name == ascii "TAG" && more.length != 2 then .error .badDirective
      else .ok .nothing

/-- A value that is not a mapping in lines, after its first group. -/
def simple (value : ValueReader) (steps : Nat) (inFlow : Bool) (group : Group)
    (rest : List Group) : Layout :=
  match group with
  | .anchor _ name =>
      if rest.isEmpty then .error .badAnchor
      else
        match labelText name, value inFlow rest with
        | .ok label, .ok (node, after) =>
            if node.isAnchored then .error .badAnchor else .ok (.anchored label node, after)
        | .error defect, _ => .error defect
        | _, .error defect => .error defect
  | .directive _ words => (directive words).map fun node => (node, rest)
  | .single token =>
      match token.mark with
      | .mapStart => flowEntries value [] [] steps rest
      | .listStart => flowItems value [] steps rest
      | .item => items value inFlow token.column [] steps (group :: rest)
      | .listEnd | .mapEnd => .error .unopened
      | _ => (tokenScalar token).map fun node => (node, rest)
  | _ => (scalar group).map fun node => (node, rest)

/-- How deep values can be nested. -/
def maxDepth : Nat := 10000

/-- Reads a value at most so deep, with at most so many steps in each loop. -/
def value (steps : Nat) : (depth : Nat) → ValueReader
  | 0, _, _ => .error .tooDeep
  | _ + 1, _, [] => .error .badScalar
  | depth + 1, inFlow, group :: rest =>
      if group.isEntry then
        entries (value steps depth) inFlow group.column [] [] steps (group :: rest)
      else simple (value steps depth) steps inFlow group rest

end Layout

def Node.ofGroups (groups : List Group) : Except Defect Node :=
  match Layout.value groups.length Layout.maxDepth false groups with
  | .error defect => .error defect
  | .ok (node, []) => .ok node
  | .ok (_, _ :: _) => .error .trailingText

end ImportSplice.Yaml
