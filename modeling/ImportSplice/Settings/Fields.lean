import ImportSplice.Settings.Config
import ImportSplice.Yaml.Document

/-!
The settings that a configuration file defines.  A field that is missing or
stands for nothing is left to the defaults.
-/

namespace ImportSplice

structure Fields where
  marker : Option Bytes := none
  imports : Option (List Bytes) := none
  deriving DecidableEq, Repr

namespace Fields

def markerName : Bytes := ascii "marker"
def importsName : Bytes := ascii "imports"

/-- The text of a field that holds one.  With an anchor before it, a value that
stands for nothing is the empty text. -/
def text? (anchors : Yaml.Anchors) (node : Yaml.Node) : Except Yaml.Defect (Option Bytes) :=
  match anchors.target node with
  | .scalar scalar => .ok scalar.text?
  | .anchored _ (.scalar scalar) => .ok (some (scalar.text?.getD []))
  | _ => .error .wrongType

/-- The texts of items; an item that stands for nothing is the empty text. -/
def itemTexts (anchors : Yaml.Anchors) (items : List Yaml.Node) :
    Except Yaml.Defect (List Bytes) :=
  items.mapM fun item => (text? anchors item).map fun text => text.getD []

def texts? (anchors : Yaml.Anchors) (node : Yaml.Node) :
    Except Yaml.Defect (Option (List Bytes)) :=
  match anchors.target node with
  | .list items | .anchored _ (.list items) => (itemTexts anchors items).map some
  | .scalar scalar =>
      match scalar.text? with
      | none => .ok none
      | some _ => .error .wrongType
  | _ => .error .wrongType

def ofDocument (document : Yaml.Document) : Except Yaml.Defect Fields :=
  match text? document.anchors ((document.get? markerName).getD .nothing),
      texts? document.anchors ((document.get? importsName).getD .nothing) with
  | .ok marker, .ok imports => .ok { marker, imports }
  | .error defect, _ => .error defect
  | _, .error defect => .error defect

def decode (text : Bytes) (limit : Nat) (wanted : Bool) : Except Fault Fields :=
  match Yaml.decode limit (if wanted then some [markerName, importsName] else none) text with
  | .error fault => .error fault
  | .ok document => (ofDocument document).mapError Yaml.Defect.toFault

/-- A configuration with the fields in place of its own. -/
def apply (fields : Fields) (config : Config) : Config :=
  { marker := fields.marker.getD config.marker, imports := fields.imports.getD config.imports }

end Fields

end ImportSplice
