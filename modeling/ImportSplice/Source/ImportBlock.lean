import ImportSplice.Text.Bytes

/-!
The block of qualified imports that is put before a marker line.
-/

namespace ImportSplice

def importLine (moduleName : Bytes) : Bytes :=
  ascii "import qualified " ++ moduleName ++ [Bytes.newline]

/-- A blank line and one import for each module; no text at all for no module. -/
def importBlock : List Bytes → Bytes
  | [] => []
  | modules => Bytes.newline :: modules.flatMap importLine

def defaultImports : List Bytes := [ascii "Data.Bits", ascii "Data.Char"]

/-- The line before which imports are put when nothing else is asked for. -/
def defaultMarker : Bytes := ascii "import qualified Prelude"

end ImportSplice
