import ImportSplice.Stream.Source

/-!
A reader as the program meets it, and the bytes that are read ahead of the lines cut
from them.  A reader gives its data in pieces of its own choice, never more than it is
given room for, and when the data is used up it reports why it stops, or stalls.
-/

namespace ImportSplice

/-- What a reader says when it stops. -/
inductive Report where
  | endOfData
  /-- Words before a report that can still be recognised. -/
  | within (context : Bytes) (report : Report)
  | failed (cause : Fault)
  deriving DecidableEq, Repr

namespace Report

def isEndOfData : Report → Bool
  | endOfData => true
  | within _ report => report.isEndOfData
  | failed _ => false

def cause : Report → Fault
  | endOfData => .text (ascii "EOF")
  | within context report => .within context report.cause
  | failed cause => cause

/-- The end of the data is no failure, in whatever words it is reported. -/
def ending (report : Report) : Ending :=
  if report.isEndOfData then .finished else .failed report.cause

end Report

/-- What a reader does when its data is used up. -/
inductive Stop where
  | reports (report : Report)
  /-- It gives neither data nor a report, however often it is asked. -/
  | stalls
  deriving DecidableEq, Repr

namespace Stop

def report? : Stop → Option Report
  | reports report => some report
  | stalls => none

end Stop

structure Reader where
  /-- The pieces in which the data comes. -/
  pieces : List Bytes
  stop : Stop
  /-- Whether a report comes together with the last piece. -/
  withData : Bool := false
  deriving DecidableEq, Repr

namespace Reader

def bytes (reader : Reader) : Bytes := reader.pieces.flatten

structure Reply where
  bytes : Bytes
  report : Option Report
  /-- What is left to be read. -/
  reader : Reader

/-- One call of a reader.  A piece that does not fit is given in parts. -/
def read (reader : Reader) (room : Nat) : Reply :=
  match reader.pieces with
  | [] => { bytes := [], report := reader.stop.report?, reader }
  | piece :: rest =>
      match piece.drop room with
      | [] =>
          { bytes := piece,
            report := if rest.isEmpty && reader.withData then reader.stop.report? else none,
            reader := { reader with pieces := rest } }
      | left =>
          { bytes := piece.take room, report := none,
            reader := { reader with pieces := left :: rest } }

/-- Calls a reader until it gives data or reports something.  After too many empty
replies it is given up. -/
def ask (room : Nat) : (attempts : Nat) → Reader → Reply
  | 0, reader => { bytes := [], report := some (.failed (.kind .noProgress)), reader }
  | attempts + 1, reader =>
      let reply := reader.read room
      if reply.bytes.isEmpty && reply.report.isNone then ask room attempts reply.reader
      else reply

theorem read_bytes (reader : Reader) (room : Nat) :
    (reader.read room).bytes ++ (reader.read room).reader.bytes = reader.bytes := by
  unfold read
  cases pieces : reader.pieces with
  | nil => rfl
  | cons piece rest =>
      dsimp only
      split
      · simp [bytes, pieces]
      · simp [bytes, pieces, ← List.append_assoc]

theorem ask_bytes (room attempts : Nat) (reader : Reader) :
    (reader.ask room attempts).bytes ++ (reader.ask room attempts).reader.bytes =
      reader.bytes := by
  induction attempts generalizing reader with
  | zero => rfl
  | succ attempts inductionHypothesis =>
      rw [ask]
      split
      · rename_i silent
        have empty : (reader.read room).bytes = [] := by simp_all
        have given := reader.read_bytes room
        rw [empty, List.nil_append] at given
        rw [inductionHypothesis, given]
      · exact reader.read_bytes room

theorem ask_answers (room attempts : Nat) (reader : Reader) :
    (reader.ask room attempts).bytes ≠ [] ∨ (reader.ask room attempts).report.isSome := by
  induction attempts generalizing reader with
  | zero => exact .inr rfl
  | succ attempts inductionHypothesis =>
      rw [ask]
      split
      · exact inductionHypothesis _
      · rename_i answered
        cases reported : (reader.read room).report with
        | none => simp_all
        | some report => simp

end Reader

/-- A reader behind the bytes that were read ahead. -/
structure Intake where
  reader : Reader
  held : Bytes := []
  /-- What the reader has reported and is not passed on yet. -/
  pending : Option Report := none

namespace Intake

/-- How many bytes can be read ahead. -/
def capacity : Nat := 65536

/-- How many empty replies in a row are put up with. -/
def patience : Nat := 100

/-- Everything that is still to be cut into lines. -/
def text (intake : Intake) : Bytes := intake.held ++ intake.reader.bytes

structure Taken where
  line : Bytes
  report : Option Report
  intake : Intake

/-- What there is to do before a report is there. -/
def work (intake : Intake) : Nat :=
  if intake.pending.isSome then 0 else intake.reader.bytes.length + 1

/-- A reader that is asked has less to give, or has reported something. -/
theorem work_ask (intake : Intake) (room attempts : Nat) (waiting : intake.pending = none) :
    work { reader := (intake.reader.ask room attempts).reader,
           held := (intake.reader.ask room attempts).bytes,
           pending := (intake.reader.ask room attempts).report } < intake.work := by
  have given := congrArg List.length (intake.reader.ask_bytes room attempts)
  rw [List.length_append] at given
  simp only [work, waiting, Option.isSome_none, Bool.false_eq_true, if_false]
  split
  · omega
  · rename_i silent
    have some := (intake.reader.ask_answers room attempts).resolve_right silent
    have positive := List.length_pos_iff.mpr some
    omega

/-- Goes on with a line of which `seen` was found already, newest byte first; `kept` of
these bytes still take up room.  A line that fills all the room is moved away. -/
def readOn (seen : Bytes) (kept : Nat) (intake : Intake) : Taken :=
  let before := intake.held.takeWhile (· != Bytes.newline)
  match intake.held.dropWhile (· != Bytes.newline) with
  | newline :: rest =>
      { line := seen.reverse ++ before ++ [newline], report := none,
        intake := { intake with held := rest } }
  | [] =>
      let seen := before.reverse ++ seen
      match waiting : intake.pending with
      | some report =>
          { line := seen.reverse, report := some report,
            intake := { intake with held := [], pending := none } }
      | none =>
          let filled := kept + before.length
          let kept := if filled < capacity then filled else 0
          let reply := intake.reader.ask (capacity - kept) patience
          have := work_ask intake (capacity - kept) patience waiting
          readOn seen kept { reader := reply.reader, held := reply.bytes, pending := reply.report }
termination_by intake.work

/-- The next line, and what the reader reported if the line is not terminated. -/
def readLine (intake : Intake) : Taken := readOn [] 0 intake

/-- No byte is lost between the lines. -/
theorem readOn_text (seen : Bytes) (kept : Nat) (intake : Intake) :
    (readOn seen kept intake).line ++ (readOn seen kept intake).intake.text =
      seen.reverse ++ intake.text := by
  fun_induction readOn seen kept intake with
  | case1 seen kept intake before newline rest cut =>
      have parts : before ++ newline :: rest = intake.held := by
        rw [← cut, List.takeWhile_append_dropWhile]
      simp [text, ← parts]
  | case2 seen kept intake before cut found report waiting =>
      have whole : before ++ [] = intake.held := by
        rw [← cut, List.takeWhile_append_dropWhile]
      simp [text, found, ← whole]
  | case3 seen kept intake before cut found waiting filled room reply decreases
      inductionHypothesis =>
      have whole : before ++ [] = intake.held := by
        rw [← cut, List.takeWhile_append_dropWhile]
      have given := intake.reader.ask_bytes (capacity - room) patience
      rw [inductionHypothesis]
      simp only [text, found, reply, given, ← whole, List.append_nil, List.reverse_append,
        List.reverse_reverse, List.append_assoc]

theorem readOn_line_ne_nil {seen : Bytes} {kept : Nat} {intake : Intake}
    (terminated : (readOn seen kept intake).report = none) :
    (readOn seen kept intake).line ≠ [] := by
  fun_induction readOn seen kept intake with
  | case1 seen kept intake before newline rest cut => simp
  | case2 seen kept intake before cut found report waiting => simp at terminated
  | case3 seen kept intake before cut found waiting filled room reply decreases
      inductionHypothesis => exact inductionHypothesis terminated

theorem readLine_shorter {intake : Intake} (terminated : intake.readLine.report = none) :
    intake.readLine.intake.text.length < intake.text.length := by
  have parts := congrArg List.length (readOn_text [] 0 intake)
  have positive := List.length_pos_iff.mpr (readOn_line_ne_nil terminated)
  rw [List.length_append, List.reverse_nil, List.nil_append] at parts
  simp only [readLine]
  omega

end Intake

end ImportSplice
