import ImportSplice.Fault

/-!
A destination of bytes that may stop taking them after a while, and the buffer
in front of it.  The buffer decides how late a refusal is noticed: bytes wait
in it until it is full or flushed, and after the first refusal it takes nothing.
-/

namespace ImportSplice

/-- What a destination does with a write that does not fit. -/
inductive Overrun where
  | fails (cause : Fault)
  /-- It takes what fits and reports the smaller count. -/
  | short

structure Sink where
  /-- How many more bytes are taken; `none` is no limit. -/
  room : Option Nat := none
  overrun : Overrun := .short
  accepted : Array UInt8 := #[]

namespace Sink

structure Reply where
  sink : Sink
  count : Nat
  failure : Option Fault

def write (sink : Sink) (bytes : Bytes) : Reply :=
  let size := bytes.length
  match sink.room with
  | none =>
      { sink := { sink with accepted := sink.accepted ++ bytes }, count := size, failure := none }
  | some room =>
      if size ≤ room then
        { sink := { sink with accepted := sink.accepted ++ bytes, room := some (room - size) },
          count := size, failure := none }
      else
        { sink := { sink with accepted := sink.accepted ++ bytes.take room, room := some 0 },
          count := room,
          failure := match sink.overrun with
            | .fails cause => some cause
            | .short => none }

end Sink

/-- Bytes on their way to a destination. -/
structure Buffer where
  sink : Sink
  held : Array UInt8 := #[]
  failure : Option Fault := none

namespace Buffer

/-- How many bytes can wait. -/
def capacity : Nat := 65536

def free (buffer : Buffer) : Nat := capacity - buffer.held.size

def hold (buffer : Buffer) (bytes : Bytes) : Buffer :=
  { buffer with held := buffer.held ++ bytes }

/-- Hands all waiting bytes over; a count that is too small is a failure. -/
def flush (buffer : Buffer) : Buffer :=
  if buffer.failure.isSome || buffer.held.isEmpty then buffer
  else
    let size := buffer.held.size
    let reply := buffer.sink.write buffer.held.toList
    match reply.failure with
    | some cause => { sink := reply.sink, failure := some cause }
    | none =>
        if reply.count < size then { sink := reply.sink, failure := some (.kind .shortWrite) }
        else { sink := reply.sink }

/-- Hands bytes over past an empty buffer.  What a small count leaves behind
waits in the buffer if it fits. -/
def bypass (buffer : Buffer) (bytes : Bytes) : Buffer :=
  let reply := buffer.sink.write bytes
  let buffer := { buffer with sink := reply.sink }
  match reply.failure with
  | some cause => { buffer with failure := some cause }
  | none =>
      let rest := bytes.drop reply.count
      if rest.length ≤ capacity then buffer.hold rest
      else { buffer with failure := some (.kind .shortWrite) }

/-- Writes through an empty buffer, one full buffer after another. -/
def writeChunks (buffer : Buffer) (text : Bytes) : Buffer :=
  if buffer.failure.isSome then buffer
  else if text.length ≤ capacity then buffer.hold text
  else ((buffer.hold (text.take capacity)).flush).writeChunks (text.drop capacity)
termination_by text.length
decreasing_by
  simp only [List.length_drop, capacity] at *
  omega

/-- Writes a text of the program's own: it always passes through the buffer. -/
def writeText (buffer : Buffer) (text : Bytes) : Buffer :=
  if buffer.failure.isSome then buffer
  else
    let free := buffer.free
    if text.length ≤ free then buffer.hold text
    else ((buffer.hold (text.take free)).flush).writeChunks (text.drop free)

/-- Writes a line of the source: a line longer than an empty buffer is handed
over without being copied into it. -/
def writeLine (buffer : Buffer) (line : Bytes) : Buffer :=
  if buffer.failure.isSome then buffer
  else
    let free := buffer.free
    if line.length ≤ free then buffer.hold line
    else if buffer.held.isEmpty then buffer.bypass line
    else
      let flushed := (buffer.hold (line.take free)).flush
      let rest := line.drop free
      if flushed.failure.isSome then flushed
      else if rest.length ≤ capacity then flushed.hold rest
      else flushed.bypass rest

end Buffer

end ImportSplice
