import ImportSplice.Command.Run
import ImportSplice.Files.Tree

/-!
The command on the machine it runs on.  What a run can look at is gathered into a
file system value, the run is computed from it, and the files that the run changed
are written at the end.
-/

namespace ImportSplice.Command

def ofText (text : String) : Bytes := text.toUTF8.toList

/-- A path as a text.  One that is no text leads nowhere. -/
def toText (bytes : Bytes) : String := (String.fromUTF8? ⟨bytes.toArray⟩).getD ""

/-- The paths that a run looks at to read, and those that it looks at to write. -/
def visited (environment : Environment) (arguments : List Bytes) : List Bytes × List Bytes :=
  match Flags.read arguments with
  | .error _ => ([], [])
  | .ok (flags, positional) =>
      let name := flags.configName (Overrides.ofEnvironment environment)
      let configs :=
        if Path.looksLikePath name then [name] else Config.candidates environment name
      (configs ++ (positional.drop 1).take 1, positional.drop 2)

def locationOf (path : Bytes) : Location :=
  ((FileSystem.names path).filter fun name => !name.isEmpty).reverse

def pathOf (location : Location) : Bytes :=
  location.reverse.flatMap fun name => Bytes.slash :: name

/-- What stands at a path, as far as reading it tells.  `inner` says that the path
goes on behind it. -/
def observe (path : Bytes) (inner : Bool) : IO (Option Entry) := do
  try
    let content ← IO.FS.readBinFile (toText path)
    return some (.file 0 content.toList 0o644)
  catch
    | .permissionDenied .. => return some (if inner then .directory 0o755 else .file 0 [] 0)
    | .inappropriateType _ code _ => return if code == 21 then some (.directory 0o755) else none
    | _ => return none

def isDevice (location : Location) : Bool := location.getLast? == some (ascii "dev")

/-- Adds what stands on the way along names.  Devices that are only going to be
written are not read. -/
def gather (reading : Bool) (system : FileSystem) (here : Location) (walked : Bytes) :
    List Bytes → IO FileSystem
  | [] => return system
  | name :: rest => do
      let path := walked ++ name
      let onward := path ++ [Bytes.slash]
      if name.isEmpty || name == Path.current then gather reading system here onward rest
      else if name == Path.parent then gather reading system here.tail onward rest
      else
        try
          let real ← IO.FS.realPath (toText path)
          let target := locationOf (ofText (toString real))
          let linked :=
            if target == name :: here then system
            else system.place (name :: here) (.link (ofText (toString real)))
          if (linked.lookup? target).isSome then gather reading linked target onward rest
          else if isDevice target && !reading then
            return linked.place target (.file 0 [] 0o644)
          else
            match ← observe path (!rest.isEmpty) with
            | some entry => gather reading (linked.place target entry) target onward rest
            | none => return linked
        catch _ => return system

def gatherPath (reading : Bool) (system : FileSystem) (path : Bytes) : IO FileSystem :=
  gather reading system (FileSystem.origin system.working path) [] (FileSystem.names path)

/-- The files that differ between two file systems, with their new contents. -/
def changes (before after : FileSystem) : List (Location × Bytes) :=
  after.entries.filterMap fun (location, entry) =>
    match entry with
    | .file _ content _ =>
        if before.look location == after.look location then none else some (location, content)
    | _ => none

/-- Writes a file under another name first, so that nobody sees half of it; a
directory that takes no new names has it written in place.  The machine is asked
for contents and not for modes, so a file that is replaced gets the mode of a new
one. -/
def store (system : FileSystem) (location : Location) (content : Bytes) : IO Unit := do
  let path := pathOf location
  let data : ByteArray := ⟨content.toArray⟩
  if system.allowsChange location then
    let staged := toText (Output.stagedPath path (← IO.rand 0 999999999))
    try
      IO.FS.withFile staged .writeNew fun handle => handle.write data
      IO.FS.rename staged (toText path)
    catch
      | .permissionDenied .. => IO.FS.writeBinFile (toText path) data
      | error => do
          try IO.FS.removeFile staged catch _ => pure ()
          throw error
  else IO.FS.writeBinFile (toText path) data

def refusalOf : IO.Error → Refusal
  | .noFileOrDirectory .. => .noEntry
  | .permissionDenied .. => .accessDenied
  | .alreadyExists .. => .alreadyExists
  | .inappropriateType .. => .isDirectory
  | .resourceExhausted .. => .noSpace
  | .resourceBusy .. => .busy
  | _ => .invalidArgument

/-- Writes what a run changed; a refusal becomes the outcome of the run. -/
def settle (before : FileSystem) (result : Result) : IO Result := do
  for (location, content) in changes before result.system do
    try store before location content
    catch error =>
      let path := pathOf location
      return failed before result.stderr
        (.fileAccess .commitOutput path (.call FileSystem.openCall path (refusalOf error)))
  return result

end ImportSplice.Command

open ImportSplice in
def main (texts : List String) : IO UInt32 := do
  let arguments := texts.map Command.ofText
  let defined ← IO.FS.readBinFile "/proc/self/environ"
  let environment := (Bytes.splitOn 0 defined.toList).filter fun entry => !entry.isEmpty
  let working ← IO.FS.realPath "."
  let empty := (FileSystem.scratch (Command.ofText (toString working))).insert []
    (.directory 0o755)
  let (inputs, outputs) := Command.visited environment arguments
  let readable ← inputs.foldlM (Command.gatherPath true) empty
  let system ← outputs.foldlM (Command.gatherPath false) readable
  let result ← Command.settle system (Command.run system environment arguments)
  (← IO.getStdout).write ⟨result.stdout.toArray⟩
  (← IO.getStderr).write ⟨result.stderr.toArray⟩
  return result.exit.code.toUInt32
