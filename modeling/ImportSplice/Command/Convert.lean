import ImportSplice.Files.Output
import ImportSplice.Stream.Inject

/-!
Converting one file into another.
-/

namespace ImportSplice

structure Conversion where
  system : FileSystem
  stats : Stats := {}
  failure : Option Fault := none

namespace Injector

/-- The permissions of an output that did not exist. -/
def newFileMode : Nat := 0o644

def sourceOf (system : FileSystem) (file : OpenFile) : Source :=
  match system.readAll file with
  | .ok content => { reads := [content], final := [], ending := .finished }
  | .error fault => { reads := [], final := [], ending := .failed fault }

def sinkOf (file : OpenFile) : Sink :=
  match file.channel with
  | .device .full =>
      { room := some 0, overrun := .fails (.call FileSystem.writeCall file.path .noSpace) }
  | _ => {}

/-- How files behave while they are copied: what reading an open file gives, how much of
what is written to one is taken, and what is met when the output is staged.  A file that is
sound gives its content and takes everything; reading and writing may also fail half-way. -/
structure Medium where
  source : FileSystem → OpenFile → Source := sourceOf
  sink : OpenFile → Sink := sinkOf
  chance : Output.Chance := {}

/-- Copies an open input to an output and commits it if the whole input was copied.  At the
end the output is given up in any case, which changes nothing once it is committed. -/
def transfer (injector : Injector) (medium : Medium) (system : FileSystem) (file : OpenFile)
    (output : Output) (inputPath outputPath : Bytes) : Conversion :=
  let outcome := injector.inject (medium.source system file) (medium.sink output.file) inputPath
  let (written, _) := Output.write system output outcome.sink.accepted.toList
  match outcome.failure with
  | some fault =>
      let aborted := Output.abort written.system written.output
      { system := aborted.system, stats := outcome.stats,
        failure := some
          (if fault.shows .readInput then .fileAccess .readInput inputPath fault
            else .fileAccess .writeOutput outputPath fault) }
  | none =>
      let committed := Output.commit written.system written.output
      let aborted := Output.abort committed.system committed.output
      { system := aborted.system, stats := outcome.stats,
        failure := committed.failure.map (Fault.fileAccess .commitOutput outputPath) }

/-- Converts the file at one path into the file at another.  The input is opened
before the output is created. -/
def convert (injector : Injector) (system : FileSystem) (inputPath outputPath : Bytes)
    (medium : Medium := {}) : Conversion :=
  match system.openForReading inputPath with
  | .error refusal =>
      { system,
        failure := some (.fileAccess .openInput inputPath
          (.call FileSystem.openCall inputPath refusal)) }
  | .ok file =>
      match Output.create system outputPath newFileMode medium.chance with
      | { system := left, result := .error fault } =>
          { system := left, failure := some (.fileAccess .createOutput outputPath fault) }
      | { system := created, result := .ok output } =>
          injector.transfer medium created file output inputPath outputPath

end Injector

end ImportSplice
