import ImportSplice.Settings.Config

/-!
Settings from environment variables.  Build systems use them to adjust a
conversion without touching the command line.
-/

namespace ImportSplice

/-- The entries `NAME=value` of an environment.  An entry without `=` defines
nothing, and of two definitions of a name the first one counts. -/
abbrev Environment := List Bytes

namespace Environment

/-- The value of a variable, empty if it is not defined. -/
def get (environment : Environment) (name : Bytes) : Bytes :=
  match environment with
  | [] => []
  | entry :: rest =>
      match Bytes.cutAt 61 entry with
      | some (defined, text) => if defined == name then text else get rest name
      | none => get rest name

def configName : Bytes := ascii "FIXIMPORTS_CONFIG"
def markerName : Bytes := ascii "FIXIMPORTS_MARKER"
def importsName : Bytes := ascii "FIXIMPORTS_IMPORTS"

/-- How the names of all variables of the program start. -/
def family : Bytes := ascii "FIXIMPORTS_"

def entryName (entry : Bytes) : Bytes := entry.takeWhile (· != 61)

/-- The entries' names that look like the program's and are not. -/
def unknownNames (environment : Environment) : List Bytes :=
  ((environment.filter family.isPrefixOf).map entryName).filter fun name =>
    !([configName, markerName, importsName].contains name)

def warnings (environment : Environment) : Bytes :=
  (unknownNames environment).flatMap fun name =>
    ascii "warning: unknown environment variable " ++ name ++ ascii " (typo?)\n"

end Environment

/-- The modules of a comma-separated list, without blank entries. -/
def splitModules (text : Bytes) : List Bytes :=
  ((Bytes.splitOn Bytes.comma text).map (trim isBlank)).filter fun name => !name.isEmpty

/-- What an environment asks for.  Empty texts ask for nothing. -/
structure Overrides where
  config : Bytes
  marker : Bytes
  imports : Option (List Bytes)
  deriving DecidableEq, Repr

namespace Overrides

def ofEnvironment (environment : Environment) : Overrides :=
  let imports := environment.get Environment.importsName
  { config := environment.get Environment.configName,
    marker := environment.get Environment.markerName,
    imports := if imports.isEmpty then none else some (splitModules imports) }

def apply (overrides : Overrides) (config : Config) : Config :=
  { marker := if overrides.marker.isEmpty then config.marker else overrides.marker,
    imports := overrides.imports.getD config.imports }

end Overrides

end ImportSplice
