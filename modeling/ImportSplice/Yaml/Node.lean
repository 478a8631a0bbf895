import ImportSplice.Yaml.Defect
import ImportSplice.Yaml.Scalar

/-!
Values of a YAML document, and the values that were given a name for later use.
-/

namespace ImportSplice.Yaml

inductive Node where
  | scalar (scalar : Scalar)
  | list (items : List Node)
  | map (entries : List (Node × Node))
  /-- A value with a name. -/
  | anchored (name : Bytes) (value : Node)
  /-- The value of a name. -/
  | reference (name : Bytes)
  /-- The name of an entry whose value is merged into its mapping. -/
  | merge

namespace Node

def nothing : Node := .scalar .nothing

def isAnchored : Node → Bool
  | anchored _ _ => true
  | _ => false

end Node

/-- Values that were given a name, the last one first. -/
abbrev Anchors := List (Bytes × Node)

namespace Anchors

def target (anchors : Anchors) : Node → Node
  | .reference name => (anchors.lookup name).getD .nothing
  | node => node

def entries? (anchors : Anchors) (node : Node) : Option (List (Node × Node)) :=
  match anchors.target node with
  | .map entries => some entries
  | .anchored _ (.map entries) => some entries
  | _ => none

end Anchors

namespace Node

mutual

/-- The anchors known after a node; a name that is referred to must have been
given a value before. -/
def collect (anchors : Anchors) : Node → Except Defect Anchors
  | .scalar _ | .merge => .ok anchors
  | .list items => collectItems anchors items
  | .map entries => collectEntries anchors entries
  | .anchored name value =>
      match collect anchors value with
      | .error defect => .error defect
      | .ok known => .ok ((name, value) :: known)
  | .reference name => if (anchors.lookup name).isSome then .ok anchors else .error .unknownAnchor

def collectItems (anchors : Anchors) : List Node → Except Defect Anchors
  | [] => .ok anchors
  | item :: rest =>
      match collect anchors item with
      | .error defect => .error defect
      | .ok known => collectItems known rest

def collectEntries (anchors : Anchors) : List (Node × Node) → Except Defect Anchors
  | [] => .ok anchors
  | entry :: rest =>
      match collectEntry anchors entry with
      | .error defect => .error defect
      | .ok known => collectEntries known rest

def collectEntry (anchors : Anchors) : Node × Node → Except Defect Anchors
  | (name, value) =>
      match collect anchors name with
      | .error defect => .error defect
      | .ok known => collect known value

end

def isNothing (anchors : Anchors) (node : Node) : Bool :=
  match anchors.target node with
  | .scalar value | .anchored _ (.scalar value) => value.text?.isNone
  | _ => false

end Node

end ImportSplice.Yaml
