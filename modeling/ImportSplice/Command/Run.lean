import ImportSplice.Command.Convert
import ImportSplice.Command.Exit
import ImportSplice.Command.Hint
import ImportSplice.Settings.Lookup
import ImportSplice.Yaml.Writer

/-!
A whole run of the command, from its arguments to its exit status.
-/

namespace ImportSplice.Command

def version : Bytes := ascii "dev"

def help : Bytes :=
  Bytes.joinWith [Bytes.newline] (["Usage: fiximports <orig> <input> <output> [flags]",
    "",
    "Inject qualified imports before the marker line of a Haskell module.",
    "Meant to run as a GHC preprocessor:",
    "",
    "  ghc -F -pgmF fiximports Main.hs",
    "",
    "Arguments:",
    "  orig      Original source name (ignored)",
    "  input     File to read; cited in LINE directives",
    "  output    File to create or overwrite",
    "",
    "Flags:",
    "  -c, --config <name>       Config file name or path",
    "  -m, --marker <s>          Marker line (default: \"import qualified Prelude\")",
    "  -i, --import <module>     Module to import qualified (repeatable)",
    "      --print-config        Print the effective config as YAML and exit",
    "  -q, --quiet               Only show errors",
    "  -v, --verbose             Report lines and insertions",
    "  -h, --help                Show this help",
    "      --version             Show version",
    "",
    "Environment:",
    "  FIXIMPORTS_CONFIG         Config file name or path",
    "  FIXIMPORTS_MARKER         Marker line",
    "  FIXIMPORTS_IMPORTS        Comma-separated modules",
    "",
    "Priority: flags > environment > config file > defaults.",
    "",
    "Exit codes: 0 success, 1 error, 2 usage, 3 file access.",
    ""].map ascii)

structure Result where
  system : FileSystem
  exit : Exit
  stdout : Bytes := []
  stderr : Bytes := []

def report (system : FileSystem) (fault : Fault) : Bytes :=
  ascii "fiximports: " ++ fault.message ++ Hint.ofFault system.directoryExists fault ++
    [Bytes.newline]

/-- A run that ends with a fault, after some lines of warnings. -/
def failed (system : FileSystem) (warnings : Bytes) (fault : Fault) : Result :=
  { system, exit := Exit.ofFault fault, stderr := warnings ++ report system fault }

/-- The counts of a conversion, and advice if no marker was found. -/
def summary (injector : Injector) (stats : Stats) (inputPath outputPath : Bytes) : Bytes :=
  inputPath ++ ascii ": " ++ Bytes.decimal stats.lines ++ ascii " lines, " ++
    Bytes.decimal stats.insertions ++ ascii " insertions -> " ++ outputPath ++ [Bytes.newline] ++
    if stats.insertions == 0 then
      inputPath ++ ascii ": marker not found" ++ Hint.noInsertions injector.marker ++
        [Bytes.newline]
    else []

def convert (system : FileSystem) (warnings : Bytes) (flags : Flags) (config : Config)
    (inputPath outputPath : Bytes) (medium : Injector.Medium := {}) : Result :=
  match Injector.create config.choices with
  | .error fault => failed system warnings fault
  | .ok injector =>
      let conversion := injector.convert system inputPath outputPath medium
      match conversion.failure with
      | some fault => failed conversion.system warnings fault
      | none =>
          { system := conversion.system, exit := .success,
            stderr := warnings ++
              if flags.verbose then summary injector conversion.stats inputPath outputPath
              else [] }

def wrongCount (count : Nat) : Fault :=
  .cite .usage (.text (ascii "expected 3 arguments <orig> <input> <output>, got " ++
    Bytes.decimal count))

def execute (system : FileSystem) (environment : Environment) (flags : Flags)
    (positional : List Bytes) (medium : Injector.Medium := {}) : Result :=
  if flags.help then { system, exit := .success, stdout := help }
  else if flags.version then
    { system, exit := .success,
      stdout := ascii "fiximports " ++ version ++ [Bytes.newline] }
  else
    let warnings := if flags.quiet then [] else environment.warnings
    match Config.resolve system environment flags with
    | .error fault => failed system warnings fault
    | .ok config =>
        if flags.printConfig then
          { system, exit := .success, stdout := Yaml.encode config, stderr := warnings }
        else match positional with
          | [_, inputPath, outputPath] =>
              convert system warnings flags config inputPath outputPath medium
          | _ => failed system warnings (wrongCount positional.length)

def run (system : FileSystem) (environment : Environment) (arguments : List Bytes)
    (medium : Injector.Medium := {}) : Result :=
  match Flags.read arguments with
  | .error defect => failed system [] defect.toFault
  | .ok (flags, positional) => execute system environment flags positional medium

end ImportSplice.Command
