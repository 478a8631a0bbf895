import ImportSplice.Stream.Inject

/-!
Reading ahead.  However a reader cuts its data into pieces, the bytes read ahead and those
still to be read make up the same text, and what the reader reports is kept back until the
last of them is part of a line.  So a copy that asks a reader for one line after the other
is the copy of a source whose lines are all at hand, and only the data and the way it
stops matter.
-/

namespace ImportSplice

namespace Reader

/-- Readers that are not given up before their end: they never give as many empty pieces in
a row as are put up with. -/
def Steady (reader : Reader) : Prop := ¬ List.replicate Intake.patience [] <:+: reader.pieces

instance (reader : Reader) : Decidable reader.Steady :=
  inferInstanceAs (Decidable (¬ _))

/-- What is found out about a reader in the end; one that stalls is given up. -/
def lastReport (reader : Reader) : Report :=
  reader.stop.report?.getD (.failed (.kind .noProgress))

variable {reader : Reader} {room : Nat}

theorem ask_exhausted (exhausted : reader.pieces = []) (attempts : Nat) :
    reader.ask room (attempts + 1) =
      { bytes := [], report := some reader.lastReport, reader } := by
  have given : reader.read room = { bytes := [], report := reader.stop.report?, reader } := by
    rw [read, exhausted]
  induction attempts with
  | zero =>
      rw [ask, given]
      cases stop : reader.stop with
      | reports report => simp [Stop.report?, lastReport, stop]
      | stalls => simp [Stop.report?, lastReport, stop, ask]
  | succ attempts inductionHypothesis =>
      rw [ask, given]
      cases stop : reader.stop with
      | reports report => simp [Stop.report?, lastReport, stop]
      | stalls => simpa [Stop.report?, stop] using inductionHypothesis

theorem steady_of_nonempty (nonempty : ∀ piece ∈ reader.pieces, piece ≠ []) : reader.Steady := by
  intro found
  exact nonempty [] (found.subset (List.mem_replicate.mpr ⟨by decide, rfl⟩)) rfl

variable {piece left : Bytes} {rest : List Bytes}

theorem Steady.tail (steady : reader.Steady) (pieces : reader.pieces = piece :: rest) :
    Steady { reader with pieces := rest } := by
  intro found
  apply steady
  rw [pieces]
  exact found.trans (List.suffix_cons piece rest).isInfix

theorem Steady.cut (steady : reader.Steady) (pieces : reader.pieces = piece :: rest)
    (nonempty : left ≠ []) : Steady { reader with pieces := left :: rest } := by
  intro found
  rcases List.infix_cons_iff.mp found with first | later
  · exact nonempty (List.cons_prefix_cons.mp first).1.symm
  · exact steady.tail pieces later

/-- A steady reader stays steady, and reports nothing before its last piece. -/
theorem read_steady (room : Nat) (steady : reader.Steady)
    (pieces : reader.pieces = piece :: rest) :
    (reader.read room).reader.Steady ∧ (reader.read room).reader.stop = reader.stop ∧
      ((reader.read room).report = none ∨
        (reader.read room).report = reader.stop.report? ∧
          (reader.read room).reader.pieces = []) := by
  unfold read
  rw [pieces]
  dsimp only
  split
  · refine ⟨steady.tail pieces, rfl, ?_⟩
    split
    · rename_i last
      exact .inr ⟨rfl, by simp_all⟩
    · exact .inl rfl
  · rename_i left cut
    exact ⟨steady.cut pieces cut, rfl, .inl rfl⟩

/-- Only an empty piece gives no data, and then it is used up. -/
theorem read_silent (pieces : reader.pieces = piece :: rest) (positive : 0 < room)
    (silent : (reader.read room).bytes = []) :
    piece = [] ∧ (reader.read room).reader.pieces = rest := by
  unfold read at silent ⊢
  rw [pieces] at silent ⊢
  dsimp only at silent ⊢
  split at silent
  · exact ⟨silent, rfl⟩
  · rename_i left cut
    rcases List.take_eq_nil_iff.mp silent with none | empty
    · omega
    · rw [empty, List.drop_nil] at cut
      exact absurd rfl cut

end Reader

namespace Intake

/-- Intakes that are going to pass a report on: their reader is steady and stops with it, or
it has been reported and nothing is left to be read. -/
inductive Promises (report : Report) : Intake → Prop where
  | reading {reader : Reader} {held : Bytes} (steady : reader.Steady)
      (stops : reader.lastReport = report) : Promises report { reader, held }
  | exhausted {reader : Reader} {held : Bytes} (empty : reader.pieces = []) :
      Promises report { reader, held, pending := some report }

theorem promises_read {reader : Reader} {room : Nat} (steady : reader.Steady)
    (remaining : reader.pieces ≠ []) :
    Promises reader.lastReport
      { reader := (reader.read room).reader, held := (reader.read room).bytes,
        pending := (reader.read room).report } := by
  obtain ⟨piece, rest, pieces⟩ := List.exists_cons_of_ne_nil remaining
  obtain ⟨later, stop, reported⟩ := Reader.read_steady room steady pieces
  have last : (reader.read room).reader.lastReport = reader.lastReport := by
    rw [Reader.lastReport, stop, Reader.lastReport]
  rcases reported with silent | ⟨report, empty⟩
  · rw [silent]
    exact .reading later last
  · rw [report]
    cases stops : reader.stop with
    | reports given =>
        have same : reader.lastReport = given := by
          rw [Reader.lastReport, stops]
          rfl
        rw [same]
        exact .exhausted empty
    | stalls => exact .reading later last

/-- Asking goes on as long as pieces are empty, and there are fewer of these in a row than
attempts. -/
theorem promises_ask {reader : Reader} {room attempts : Nat} (steady : reader.Steady)
    (patient : ¬ List.replicate attempts [] <+: reader.pieces) (positive : 0 < room) :
    Promises reader.lastReport
      { reader := (reader.ask room attempts).reader, held := (reader.ask room attempts).bytes,
        pending := (reader.ask room attempts).report } := by
  induction attempts generalizing reader with
  | zero => exact absurd List.nil_prefix patient
  | succ attempts inductionHypothesis =>
      cases pieces : reader.pieces with
      | nil =>
          rw [Reader.ask_exhausted pieces]
          exact .exhausted pieces
      | cons piece rest =>
          rw [Reader.ask]
          split
          · rename_i unanswered
            have silent : (reader.read room).bytes = [] := by simp_all
            obtain ⟨later, stop, -⟩ := Reader.read_steady room steady pieces
            obtain ⟨rfl, used⟩ := Reader.read_silent pieces positive silent
            have last : (reader.read room).reader.lastReport = reader.lastReport := by
              rw [Reader.lastReport, stop, Reader.lastReport]
            rw [← last]
            apply inductionHypothesis later
            intro first
            rw [used] at first
            apply patient
            rw [pieces, List.replicate_succ]
            exact List.cons_prefix_cons.mpr ⟨rfl, first⟩
          · exact promises_read steady (by simp [pieces])

theorem unbroken_takeWhile (held : Bytes) :
    Bytes.newline ∉ held.takeWhile (· != Bytes.newline) := by
  intro member
  have kept := List.all_eq_true.mp (List.all_takeWhile (l := held) (p := (· != Bytes.newline)))
  simpa using kept Bytes.newline member

theorem eq_newline_of_dropWhile {held rest : Bytes} {byte : UInt8}
    (cut : held.dropWhile (· != Bytes.newline) = byte :: rest) : byte = Bytes.newline := by
  have stopped := List.head?_dropWhile_not (· != Bytes.newline) held
  rw [cut] at stopped
  simpa using stopped

/-- A line that is read ends at the first newline, and the promise is kept; without a newline
the line is all that is left, and the report comes with it. -/
theorem readOn_promises {report : Report} {seen : Bytes} (kept : Nat) {intake : Intake}
    (promised : intake.Promises report) (unbroken : Bytes.newline ∉ seen) :
    ((readOn seen kept intake).report = none ∧ (readOn seen kept intake).intake.Promises report ∧
      ∃ body, Bytes.newline ∉ body ∧ (readOn seen kept intake).line = body ++ [Bytes.newline]) ∨
    ((readOn seen kept intake).report = some report ∧
      Bytes.newline ∉ (readOn seen kept intake).line ∧
      (readOn seen kept intake).intake.text = []) := by
  fun_induction readOn seen kept intake with
  | case1 seen kept intake before newline rest cut =>
      have found := eq_newline_of_dropWhile cut
      refine .inl ⟨rfl, ?_, seen.reverse ++ before, ?_, by rw [found]⟩
      · cases promised with
        | reading steady stops => exact .reading steady stops
        | exhausted empty => exact .exhausted empty
      · simp [unbroken, before, unbroken_takeWhile]
  | case2 seen kept intake before cut found given waiting =>
      cases promised with
      | reading steady stops => simp at waiting
      | exhausted empty =>
          refine .inr ⟨waiting.symm, ?_, by simp [text, Reader.bytes, empty]⟩
          simp [found, unbroken, before, unbroken_takeWhile]
  | case3 seen kept intake before cut found waiting filled room reply decreases
      inductionHypothesis =>
      cases promised with
      | exhausted empty => simp at waiting
      | reading steady stops =>
          have space : 0 < capacity - room := by
            by_cases small : filled < capacity
            · simp only [room, small, dite_true]
              omega
            · simp only [room, small, dite_false]
              decide
          refine inductionHypothesis ?_ ?_
          · rw [← stops]
            exact promises_ask steady (fun first => steady first.isInfix) space
          · simp [found, unbroken, before, unbroken_takeWhile]

theorem readLine_cases {report : Report} {intake : Intake} (promised : intake.Promises report) :
    (intake.readLine.report = none ∧ intake.readLine.intake.Promises report ∧
      intake.readLine.line ≠ [] ∧
      lines intake.text = intake.readLine.line :: lines intake.readLine.intake.text) ∨
    (intake.readLine.report = some report ∧ intake.text = intake.readLine.line ∧
      Bytes.newline ∉ intake.readLine.line) := by
  have whole : intake.readLine.line ++ intake.readLine.intake.text = intake.text :=
    readOn_text [] 0 intake
  rcases readOn_promises 0 promised List.not_mem_nil with
    ⟨silent, later, body, unbroken, line⟩ | ⟨reported, unbroken, nothing⟩
  · refine .inl ⟨silent, later, readOn_line_ne_nil silent, ?_⟩
    rw [← whole, readLine, line, List.append_assoc]
    exact lines_append_newline unbroken
  · refine .inr ⟨reported, ?_, unbroken⟩
    rw [← whole, readLine, nothing, List.append_nil]

end Intake

namespace Injector

def settle (ending : Ending) (copied : Stats × Buffer) : Outcome :=
  if copied.2.failure.isSome then finish copied.1 copied.2
  else conclude copied.1 copied.2 ending

theorem inject_eq_settle (injector : Injector) (source : Source) (sink : Sink) (path : Bytes)
    (started : (Buffer.writeText { sink } (Directive.render 1 path)).failure = none) :
    injector.inject source sink path =
      settle source.ending (injector.copyLines path {}
        (Buffer.writeText { sink } (Directive.render 1 path)) source.lines) := by
  rw [inject, started]
  rfl

theorem inject_congr (injector : Injector) {first second : Source} (sink : Sink) (path : Bytes)
    (sameLines : first.lines = second.lines) (sameEnding : first.ending = second.ending) :
    injector.inject first sink path = injector.inject second sink path := by
  rw [inject, inject, sameLines, sameEnding]

/-- Copying while lines are read is copying the lines of the text. -/
theorem copyFrom_eq_settle (injector : Injector) (path : Bytes) (stats : Stats) (buffer : Buffer)
    {report : Report} {intake : Intake} (promised : intake.Promises report)
    (working : buffer.failure = none) :
    injector.copyFrom path stats buffer intake =
      settle report.ending (injector.copyLines path stats buffer (lines intake.text)) := by
  fun_induction copyFrom injector path stats buffer intake with
  | case1 stats buffer intake taken counted written broken =>
      -- Only a line that was there can have broken the buffer.
      have nonempty : taken.line ≠ [] := by
        intro empty
        simp [written, empty, working] at broken
      have first : ∃ others, lines intake.text = taken.line :: others := by
        rcases Intake.readLine_cases promised with ⟨-, -, -, cut⟩ | ⟨-, whole, unbroken⟩
        · exact ⟨_, cut⟩
        · exact ⟨[], by rw [whole, lines_of_unbroken unbroken nonempty]⟩
      obtain ⟨others, cut⟩ := first
      have number : injector.count stats taken.line = counted := by simp [counted, nonempty]
      have copy : injector.copyLine path counted.lines buffer taken.line = written := by
        simp [written, nonempty]
      rw [cut, copyLines, number, copy, if_pos broken, settle, if_pos broken]
  | case2 stats buffer intake taken counted written running given reported =>
      rcases Intake.readLine_cases promised with ⟨silent, -⟩ | ⟨found, whole, unbroken⟩
      · cases reported.symm.trans silent
      cases reported.symm.trans found
      -- What is left without a newline is the last line, or there is none.
      have copied : injector.copyLines path stats buffer (lines intake.text) =
          (counted, written) := by
        by_cases empty : taken.line = []
        · have nothing : lines intake.text = [] := by
            rw [whole]
            exact congrArg lines empty
          simp [nothing, copyLines, counted, written, empty]
        · rw [whole, lines_of_unbroken unbroken empty]
          simp [copyLines, counted, written, empty, taken]
      rw [copied, settle, if_neg running]
  | case3 stats buffer intake taken counted written running silent shorter inductionHypothesis =>
      rcases Intake.readLine_cases promised with ⟨-, later, nonempty, cut⟩ | ⟨found, -⟩
      · have healthy : written.failure = none := by simpa using running
        have number : injector.count stats intake.readLine.line = counted := by
          simp [counted, taken, nonempty]
        have copy : injector.copyLine path counted.lines buffer intake.readLine.line = written := by
          simp [written, taken, nonempty]
        rw [inductionHypothesis later healthy, cut, copyLines, number, copy, if_neg running]
      · cases silent.symm.trans found

def sourceFrom (reader : Reader) : Source :=
  { reads := reader.pieces, final := [], ending := reader.lastReport.ending }

@[simp]
theorem bytes_sourceFrom (reader : Reader) : (sourceFrom reader).bytes = reader.bytes := by
  simp [Source.bytes, sourceFrom, Reader.bytes]

theorem injectFrom_eq_inject (injector : Injector) {reader : Reader} (steady : reader.Steady)
    (sink : Sink) (path : Bytes) :
    injector.injectFrom reader sink path = injector.inject (sourceFrom reader) sink path := by
  rw [injectFrom]
  cases started : (Buffer.writeText { sink } (Directive.render 1 path)).failure with
  | some fault => simp [inject, started]
  | none =>
      rw [inject_eq_settle _ _ _ _ started, Source.lines_eq, bytes_sourceFrom]
      have promised : Intake.Promises reader.lastReport { reader } := .reading steady rfl
      rw [if_neg (by simp), injector.copyFrom_eq_settle path {} _ promised started]
      rfl

/-- Only the data and the way a reader stops matter, whatever the destination does. -/
theorem injectFrom_ignores_cuts (injector : Injector) (sink : Sink) (path : Bytes)
    {first second : Reader} (firstSteady : first.Steady) (secondSteady : second.Steady)
    (sameBytes : first.bytes = second.bytes) (sameStop : first.stop = second.stop) :
    injector.injectFrom first sink path = injector.injectFrom second sink path := by
  have sameLines : (sourceFrom first).lines = (sourceFrom second).lines := by
    rw [Source.lines_eq, Source.lines_eq, bytes_sourceFrom, bytes_sourceFrom, sameBytes]
  have sameEnding : (sourceFrom first).ending = (sourceFrom second).ending := by
    simp [sourceFrom, Reader.lastReport, sameStop]
  rw [injector.injectFrom_eq_inject firstSteady, injector.injectFrom_eq_inject secondSteady]
  exact injector.inject_congr sink path sameLines sameEnding

/-- One reader cuts a marker line in two, with an empty piece between, and breaks off with its
last piece; the other gives everything at once and breaks off later. -/
theorem injectFrom_ignores_late_report :
    let stop : Stop := .reports (.failed (.kind .unexpectedEnd))
    let early : Reader :=
      { pieces := [ascii "import qual", [], ascii "ified Prelude\nma", ascii "in"], stop,
        withData := true }
    let late : Reader := { pieces := [ascii "import qualified Prelude\nmain"], stop }
    let sink : Sink := { room := some 30, overrun := .fails (.text (ascii "full")) }
    early.Steady ∧ late.Steady ∧
      early.bytes = late.bytes ∧ early.stop = late.stop ∧
      ({} : Injector).injectFrom early sink (ascii "A.hs") =
        ({} : Injector).injectFrom late sink (ascii "A.hs") ∧
      (({} : Injector).injectFrom late sink (ascii "A.hs")).stats = { lines := 2, insertions := 1 } ∧
      (({} : Injector).injectFrom late sink (ascii "A.hs")).failure =
        some (.cite .readInput (.within (ascii "line 3") (.kind .unexpectedEnd))) := by
  intro stop early late sink
  have firstSteady : early.Steady := by decide
  have secondSteady : late.Steady := by decide
  have sameBytes : early.bytes = late.bytes := by decide
  exact ⟨firstSteady, secondSteady, sameBytes, rfl,
    injectFrom_ignores_cuts {} sink (ascii "A.hs") firstSteady secondSteady sameBytes rfl,
    by decide +kernel, by decide +kernel⟩

end Injector

end ImportSplice
