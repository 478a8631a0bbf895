import ImportSplice.Files.Calls
import ImportSplice.Files.Path

/-!
Output files.  A regular output is staged: it is written under another name in
the same directory and takes its own name only when it is committed, so nobody
sees half of it.  Links and devices are written in place, and so is a file in a
directory that takes no new names.
-/

namespace ImportSplice

structure Output where
  file : OpenFile
  /-- The path that a staged file takes when it is committed; `none` for a file
  that is written in place. -/
  target : Option Bytes
  finished : Bool := false
  deriving DecidableEq, Repr

namespace Output

/-- What a run cannot choose when it stages an output: the numbers that it draws for the
name, and whether it may set the mode of the new file. -/
structure Chance where
  draws : Nat → UInt32 := .ofNat
  refusesMode : Option Refusal := none

/-- The part of a staged path that stands before its number. -/
def stagedStart (path : Bytes) : Bytes :=
  let (directory, base) := Path.split path
  let start := if directory.isEmpty then ascii "./" else directory
  start ++ ascii "." ++ base ++ ascii ".tmp-"

def stagedPath (path : Bytes) (number : Nat) : Bytes := stagedStart path ++ Bytes.decimal number

/-- All staged paths of an output as one text. -/
def stagedPattern (path : Bytes) : Bytes := stagedStart path ++ ascii "*"

/-- How many numbers are drawn before the search for a free name is given up. -/
def maxDraws : Nat := 10000

/-- The mode that a staged file is created with. -/
def stagedMode : Nat := 0o600

/-- Draws numbers from an attempt on until a staged path is not taken, and creates a file
there. -/
def createTemporary (system : FileSystem) (path : Bytes) (draws : Nat → UInt32) :
    (left attempt : Nat) → Except Fault (FileSystem × OpenFile)
  | 0, _ => .error (.call FileSystem.temporaryCall (stagedPattern path) .taken)
  | left + 1, attempt =>
      let staged := stagedPath path (draws attempt).toNat
      match system.createNew staged stagedMode with
      | .ok created => .ok created
      | .error .alreadyExists => createTemporary system path draws left (attempt + 1)
      | .error refusal => .error (.call FileSystem.openCall staged refusal)

/-- What is left when an output was to be created: the file system, and the output or what
went wrong. -/
structure Creation where
  system : FileSystem
  result : Except Fault Output

/-- Takes a staged file away; what stands in the way is ignored. -/
def discard (system : FileSystem) (staged : Bytes) : FileSystem :=
  match system.remove staged with
  | .ok removed => removed
  | .error _ => system

/-- Starts a staged output.  Its file is there before it has its mode; if the mode is
refused, the file is closed and taken away again. -/
def createStaged (system : FileSystem) (path : Bytes) (mode : Nat) (chance : Chance := {}) :
    Creation :=
  match createTemporary system path chance.draws maxDraws 0 with
  | .error fault => { system, result := .error fault }
  | .ok (created, file) =>
      match chance.refusesMode with
      | none =>
          { system := created.setMode file mode, result := .ok { file, target := some path } }
      | some refusal =>
          let (closed, _) := file.close
          { system := discard created closed.path,
            result := .error (.within (ascii "setting permissions")
              (.call FileSystem.modeCall closed.path refusal)) }

def createDirect (system : FileSystem) (path : Bytes) (mode : Nat) : Creation :=
  match system.openForWriting path mode with
  | .ok (opened, file) => { system := opened, result := .ok { file, target := none } }
  | .error refusal => { system, result := .error (.call FileSystem.openCall path refusal) }

/-- Starts the output for a path.  A file that exists keeps its permissions; the
given ones are for a new file. -/
def create (system : FileSystem) (path : Bytes) (mode : Nat) (chance : Chance := {}) :
    Creation :=
  match system.find .kept path with
  | .ok (_, .file _ _ old) =>
      let staged := createStaged system path (Mode.permissions old) chance
      match staged.result with
      | .ok _ => staged
      | .error fault =>
          if fault.shows .permission then
            createDirect staged.system path (Mode.permissions old)
          else staged
  | .ok _ => createDirect system path mode
  | .error .noEntry => createStaged system path mode chance
  | .error refusal => { system, result := .error (.call FileSystem.statusCall path refusal) }

structure Step where
  system : FileSystem
  output : Output
  failure : Option Fault

def write (system : FileSystem) (output : Output) (bytes : Bytes) : Step × Nat :=
  let written := system.write output.file bytes
  ({ system := written.system, output := { output with file := written.file },
     failure := written.failure }, written.count)

def close (system : FileSystem) (output : Output) : Step :=
  let (file, failure) := output.file.close
  { system, output := { output with file }, failure }

/-- Closes an output for good; a staged one takes its path.  If that fails, the
staged file is taken away and the path is left as it was. -/
def commit (system : FileSystem) (output : Output) : Step :=
  if output.finished then { system, output, failure := some (.kind .alreadyFinished) }
  else
    let (file, closing) := output.file.close
    let done := { output with file, finished := true }
    match output.target, closing with
    | none, _ => { system, output := done, failure := closing }
    | some _, some fault =>
        { system := discard system file.path, output := done,
          failure := some (.within (ascii "closing staged file") fault) }
    | some target, none =>
        match system.rename file.path target with
        | .ok renamed => { system := renamed, output := done, failure := none }
        | .error refusal =>
            { system := discard system file.path, output := done,
              failure := some (.within (ascii "replacing " ++ target)
                (.rename file.path target refusal)) }

/-- Gives an output up.  Does nothing once it is finished. -/
def abort (system : FileSystem) (output : Output) : Step :=
  if output.finished then { system, output, failure := none }
  else
    let (file, closing) := output.file.close
    let done := { output with file, finished := true }
    match output.target with
    | none => { system, output := done, failure := closing }
    | some _ =>
        match system.remove file.path with
        | .ok removed => { system := removed, output := done, failure := closing }
        | .error refusal =>
            { system, output := done,
              failure := Fault.join
                [closing, some (.call FileSystem.removeCall file.path refusal)] }

end Output

end ImportSplice
