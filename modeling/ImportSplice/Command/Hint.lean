import ImportSplice.Fault
import ImportSplice.Files.Path

/-!
Advice that follows a message on a line of its own.
-/

namespace ImportSplice.Hint

def line (advice : Bytes) : Bytes := ascii "\n  hint: " ++ advice

def usage : Bytes :=
  line (ascii "run via ghc -F -pgmF fiximports, or pass <orig> <input> <output>")

/-- For an input that is not there: only a relative path can be meant for
another directory. -/
def missingInput (path : Bytes) : Bytes :=
  if Path.isAbsolute path then []
  else line (ascii "relative paths resolve against the compiler's working directory")

/-- For an output that cannot be created in a directory that may not exist. -/
def outputDirectory (directoryExists : Bytes → Bool) (path : Bytes) : Bytes :=
  let directory := Path.directory path
  if directoryExists directory then line (ascii "check " ++ directory ++ ascii " is writable")
  else line (ascii "directory " ++ directory ++ ascii " does not exist")

/-- For a configuration that was not found: the first place searched that is the
user's own is worth creating. -/
def missingConfig (searched : List Bytes) : Bytes :=
  line (ascii "use --config /path/to/file.yaml" ++
    match searched.find? (Bytes.occursIn (ascii "/fiximports/")) with
    | some path => ascii " or create " ++ path
    | none => [])

def noInsertions (marker : Bytes) : Bytes :=
  line (ascii "no line equals \"" ++ marker ++
    ascii "\"; add it to the module or change --marker")

/-- The advice for a fault, empty if there is none. -/
def ofFault (directoryExists : Bytes → Bool) (fault : Fault) : Bytes :=
  match fault.failedStage? with
  | some (.openInput, path) => if fault.shows .notExist then missingInput path else []
  | some (.createOutput, path) => outputDirectory directoryExists path
  | some _ => []
  | none =>
      match fault.search? with
      | some (_, tried) => missingConfig tried
      | none => if fault.shows .usage then usage else []

end ImportSplice.Hint
