import ImportSplice.Files.Calls
import ImportSplice.Files.Path
import ImportSplice.Settings.Environment
import ImportSplice.Settings.Fields
import ImportSplice.Settings.Flags

/-!
Finding and loading configuration files, and the settings that result from all
sources: a flag wins over the environment, the environment over the file, and
the file over the defaults.
-/

namespace ImportSplice

/-- Where the user keeps configurations; `none` if that cannot be said. -/
def Environment.configDirectory? (environment : Environment) : Option Bytes :=
  let configured := environment.get (ascii "XDG_CONFIG_HOME")
  if !configured.isEmpty then
    if Path.isAbsolute configured then some configured else none
  else
    let home := environment.get (ascii "HOME")
    if home.isEmpty then none else some (home ++ ascii "/.config")

namespace Config

def extensions : List Bytes := [ascii ".yaml", ascii ".yml"]

/-- The paths at which a named configuration may be, in the order of the search. -/
def candidates (environment : Environment) (name : Bytes) : List Bytes :=
  extensions.map (name ++ ·) ++
    match environment.configDirectory? with
    | some directory =>
        extensions.map fun extension =>
          Path.join [directory, ascii "fiximports", name ++ extension]
    | none => []

/-- The path of a configuration: a path stands for itself, a name for the first
candidate that exists. -/
def locate (system : FileSystem) (environment : Environment) (name : Bytes) :
    Except Fault Bytes :=
  if Path.looksLikePath name then .ok name
  else match (candidates environment name).find? system.fileExists with
    | some path => .ok path
    | none => .error (.notFound name (candidates environment name))

def readFile (system : FileSystem) (path : Bytes) : Except Fault Bytes :=
  match system.openForReading path with
  | .error .noEntry => .error (.cite .configNotFound (.text path))
  | .error refusal =>
      .error (.within (ascii "reading config file") (.call FileSystem.openCall path refusal))
  | .ok file => (system.readAll file).mapError (Fault.within (ascii "reading config file"))

/-- The configuration in a file: its fields over the defaults, if acceptable. -/
def loadFile (system : FileSystem) (path : Bytes) : Except Fault Config := do
  let text ← readFile system path
  let fields ← (Fields.decode text Yaml.maxSize true).mapError fun fault =>
    .cite .configParse (.text fault.message)
  let config := fields.apply {}
  config.validate.mapError (Fault.within path)
  return config

def load (system : FileSystem) (environment : Environment) (name : Bytes) :
    Except Fault Config :=
  if name.isEmpty then .error (.kind .emptyConfigName)
  else do
    let path ← locate system environment name
    loadFile system path

end Config

/-- The configuration with the explicit flags in place of its own settings. -/
def Flags.apply (flags : Flags) (config : Config) : Config :=
  { marker := flags.marker.getD config.marker, imports := flags.imports.getD config.imports }

/-- The configuration that a command asks for: a flag wins over the environment. -/
def Flags.configName (flags : Flags) (overrides : Overrides) : Bytes :=
  if flags.config.isEmpty then overrides.config else flags.config

def Config.resolve (system : FileSystem) (environment : Environment) (flags : Flags) :
    Except Fault Config := do
  let overrides := Overrides.ofEnvironment environment
  let name := flags.configName overrides
  let base ←
    if name.isEmpty then .ok {}
    else (Config.load system environment name).mapError (Fault.within (ascii "loading config"))
  let config := flags.apply (overrides.apply base)
  config.validate
  return config

end ImportSplice
