import ImportSplice.Source.Injector
import ImportSplice.Stream.Reader
import ImportSplice.Stream.Sink
import ImportSplice.Stream.Source

/-!
Copying a source to a destination line by line.  A failing end of the source is
reported without flushing what still waits in the buffer.  `inject` copies a source
whose reads are all at hand, and `injectFrom` asks a reader for more only when it has
no line left.
-/

namespace ImportSplice

/-- Lines read and marker lines among them. -/
structure Stats where
  lines : Nat := 0
  insertions : Nat := 0
  deriving DecidableEq, Repr

namespace Injector

def count (injector : Injector) (stats : Stats) (line : Bytes) : Stats :=
  { lines := stats.lines + 1,
    insertions := stats.insertions + if injector.isMarker line then 1 else 0 }

def copyLine (injector : Injector) (path : Bytes) (number : Nat) (buffer : Buffer)
    (line : Bytes) : Buffer :=
  let ready :=
    if injector.isMarker line then
      (buffer.writeText injector.block).writeText (Directive.render number path)
    else buffer
  ready.writeLine line

/-- Copies lines until one cannot be written.  A line is counted before it is
written. -/
def copyLines (injector : Injector) (path : Bytes) (stats : Stats) (buffer : Buffer) :
    List Bytes → Stats × Buffer
  | [] => (stats, buffer)
  | line :: rest =>
      let counted := injector.count stats line
      let written := injector.copyLine path counted.lines buffer line
      if written.failure.isSome then (counted, written)
      else injector.copyLines path counted written rest

/-- What a copy leaves behind: the counts, the destination and what failed. -/
structure Outcome where
  stats : Stats
  sink : Sink
  failure : Option Fault

def finish (stats : Stats) (buffer : Buffer) : Outcome :=
  { stats, sink := buffer.sink, failure := buffer.failure.map (Fault.cite .writeOutput) }

/-- What a copy comes to when its source has ended. -/
def conclude (stats : Stats) (buffer : Buffer) : Ending → Outcome
  | .finished => finish stats buffer.flush
  | .failed cause =>
      { stats, sink := buffer.sink,
        failure := some (.cite .readInput
          (.within (ascii "line " ++ Bytes.decimal (stats.lines + 1)) cause)) }

def inject (injector : Injector) (source : Source) (sink : Sink) (path : Bytes) : Outcome :=
  let header := Buffer.writeText { sink } (Directive.render 1 path)
  if header.failure.isSome then finish {} header
  else
    let (stats, buffer) := injector.copyLines path {} header source.lines
    if buffer.failure.isSome then finish stats buffer
    else conclude stats buffer source.ending

/-- Copies lines while they are read.  What is left when the reader reports something
is a line too, and it is written before the report is looked at. -/
def copyFrom (injector : Injector) (path : Bytes) (stats : Stats) (buffer : Buffer)
    (intake : Intake) : Outcome :=
  let taken := intake.readLine
  let counted := if taken.line.isEmpty then stats else injector.count stats taken.line
  let written :=
    if taken.line.isEmpty then buffer
    else injector.copyLine path counted.lines buffer taken.line
  if written.failure.isSome then finish counted written
  else
    match reported : taken.report with
    | some report => conclude counted written report.ending
    | none =>
        have := Intake.readLine_shorter reported
        injector.copyFrom path counted written taken.intake
termination_by intake.text.length

def injectFrom (injector : Injector) (reader : Reader) (sink : Sink) (path : Bytes) : Outcome :=
  let header := Buffer.writeText { sink } (Directive.render 1 path)
  if header.failure.isSome then finish {} header
  else injector.copyFrom path {} header { reader }

end Injector

end ImportSplice
