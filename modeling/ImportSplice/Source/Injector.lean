import ImportSplice.Source.Directive
import ImportSplice.Source.ImportBlock
import ImportSplice.Source.Lines
import ImportSplice.Text.Blank
import ImportSplice.Fault
import ImportSplice.Text.Quoted

/-!
What an injector is, which lines it recognises, and the text it makes of a
source: the header directive, then every line, with the block and a directive
before each marker line.
-/

namespace ImportSplice

structure Injector where
  marker : Bytes := defaultMarker
  block : Bytes := importBlock defaultImports
  deriving DecidableEq, Repr

inductive Choice where
  | marker (line : Bytes)
  | block (text : Bytes)
  | imports (modules : List Bytes)

namespace Injector

/-- A later choice replaces an earlier one. -/
def choose (injector : Injector) : Choice → Injector
  | .marker line => { injector with marker := trim isSourceBlank line }
  | .block text => { injector with block := text }
  | .imports modules => { injector with block := importBlock modules }

/-- The injector of a list of choices; its marker is one line and not empty. -/
def create (choices : List Choice) : Except Fault Injector :=
  let injector := choices.foldl choose {}
  if injector.marker.isEmpty || injector.marker.contains Bytes.carriageReturn ||
      injector.marker.contains Bytes.newline then
    .error (.cite .invalidMarker (.text (quoted injector.marker)))
  else .ok injector

/-- Whether a line is the marker once its padding is taken off. -/
def isMarker (injector : Injector) (line : Bytes) : Bool :=
  trim isSourceBlank line == injector.marker

def insertion (injector : Injector) (path : Bytes) (number : Nat) (line : Bytes) : Bytes :=
  if injector.isMarker line then injector.block ++ Directive.render number path else []

/-- The lines of a source from a line number on, each after its insertion. -/
def renderLines (injector : Injector) (path : Bytes) (number : Nat) : List Bytes → Bytes
  | [] => []
  | line :: rest =>
      injector.insertion path number line ++ line ++ injector.renderLines path (number + 1) rest

def render (injector : Injector) (path : Bytes) (source : Bytes) : Bytes :=
  Directive.render 1 path ++ injector.renderLines path 1 (lines source)

end Injector

end ImportSplice
