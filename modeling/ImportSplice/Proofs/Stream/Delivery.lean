import ImportSplice.Proofs.Stream.Carriage
import ImportSplice.Proofs.Stream.ReadAhead

/-!
What a destination receives from a copy.  A copied line adds its insertion and
itself to the text that the buffer carries and one to the counts, so a run of the
copying loop adds `renderLines` of the lines it copied.  A destination without a
limit never stops the loop, and the final flush hands everything over.
-/

namespace ImportSplice

namespace Buffer

variable {sink : Sink} {text : Bytes} {buffer : Buffer}

theorem Carries.working_of_unlimited (carried : Carries sink text buffer)
    (unlimited : sink.room = none) : buffer.failure = none := by
  cases carried with
  | waiting taken working => exact working
  | refused room broken limited => simp [unlimited] at limited

theorem Carries.sink_eq (carried : Carries sink text buffer) (working : buffer.failure = none)
    (empty : buffer.held = #[]) : buffer.sink = sink.after text := by
  cases carried with
  | waiting taken _ whole _ _ arrived =>
      rw [empty, List.append_nil] at whole
      rw [arrived, whole]
  | refused room broken => simp [working] at broken

end Buffer

namespace Injector

variable {sink : Sink} {text : Bytes} {buffer : Buffer}

theorem copyLine_carries (injector : Injector) (path : Bytes) (number : Nat) (line : Bytes)
    (carried : buffer.Carries sink text) :
    (injector.copyLine path number buffer line).Carries sink
      (text ++ (injector.insertion path number line ++ line)) := by
  unfold copyLine insertion
  dsimp only
  rw [← List.append_assoc]
  apply Buffer.Carries.writeLine
  split
  · have inserted :=
      (carried.writeText injector.block).writeText (Directive.render number path)
    rwa [List.append_assoc] at inserted
  · rwa [List.append_nil]

/-- A run of the copying loop copies some of the lines, all of them unless the
destination refuses; the counts and the carried text are those of the copied lines. -/
theorem copyLines_carries (injector : Injector) (path : Bytes) (stats : Stats)
    (pieces : List Bytes) (carried : buffer.Carries sink text) :
    ∃ copied left, pieces = copied ++ left ∧
      (injector.copyLines path stats buffer pieces).1 =
        { lines := stats.lines + copied.length,
          insertions := stats.insertions + copied.countP injector.isMarker } ∧
      (injector.copyLines path stats buffer pieces).2.Carries sink
        (text ++ injector.renderLines path (stats.lines + 1) copied) ∧
      ((injector.copyLines path stats buffer pieces).2.failure = none → left = []) := by
  induction pieces generalizing text stats buffer with
  | nil => exact ⟨[], [], rfl, rfl, by simpa [copyLines, renderLines] using carried, fun _ => rfl⟩
  | cons line rest inductionHypothesis =>
      have written :=
        injector.copyLine_carries path (injector.count stats line).lines line carried
      rw [copyLines]
      split
      · rename_i broken
        refine ⟨[line], rest, rfl, ?_, ?_, ?_⟩
        · simp [count, List.countP_cons]
        · simpa [count, renderLines] using written
        · intro working
          dsimp only at working
          simp [working] at broken
      · obtain ⟨copied, left, cut, counted, carries, complete⟩ :=
          inductionHypothesis (injector.count stats line) written
        refine ⟨line :: copied, left, by rw [cut, List.cons_append], ?_, ?_, complete⟩
        · rw [counted]
          simp only [count, List.length_cons, List.countP_cons]
          congr 1 <;> omega
        · rw [List.append_assoc] at carries
          exact carries

/-- A destination without a limit receives the whole rendering of a source. -/
theorem inject_of_unlimited (injector : Injector) (source : Source) (sink : Sink) (path : Bytes)
    (finished : source.ending = .finished) (unlimited : sink.room = none) :
    injector.inject source sink path =
      { stats := { lines := (lines source.bytes).length,
                   insertions := (lines source.bytes).countP injector.isMarker },
        sink := sink.after (injector.render path source.bytes),
        failure := none } := by
  have header := (Buffer.carries_start sink).writeText (Directive.render 1 path)
  have started := header.working_of_unlimited unlimited
  obtain ⟨copied, left, cut, counted, carries, complete⟩ :=
    injector.copyLines_carries path {} source.lines header
  have running := carries.working_of_unlimited unlimited
  have whole : source.lines = copied := by
    rw [cut, complete running, List.append_nil]
  subst whole
  have flushed := carries.flush
  have working := flushed.working_of_unlimited unlimited
  have arrived := flushed.sink_eq working (Buffer.flush_held working)
  unfold inject
  dsimp only
  rw [started, running, finished]
  simp only [Option.isSome_none, Bool.false_eq_true, if_false, conclude, finish, working,
    Option.map_none, arrived, counted, render, ← source.lines_eq, Nat.zero_add, List.nil_append]

theorem renderLines_eq_flatMap (injector : Injector) (path : Bytes) (number : Nat)
    (pieces : List Bytes) :
    injector.renderLines path number pieces =
      (pieces.zipIdx number).flatMap fun (line, index) =>
        injector.insertion path index line ++ line := by
  induction pieces generalizing number with
  | nil => rfl
  | cons line rest inductionHypothesis =>
      rw [renderLines, inductionHypothesis, List.zipIdx_cons, List.flatMap_cons]

/-- A source that ends well is copied whole to a destination without a limit: the
header, then each line behind the block and its directive if it is a marker line. -/
theorem inject_copies_every_line (injector : Injector) (source : Source) (sink : Sink)
    (path : Bytes) (finished : source.ending = .finished) (unlimited : sink.room = none) :
    (injector.inject source sink path).failure = none ∧
      (injector.inject source sink path).sink.accepted.toList =
        sink.accepted.toList ++ Directive.render 1 path ++
          ((lines source.bytes).zipIdx 1).flatMap (fun (line, number) =>
            (if trim isSourceBlank line = injector.marker then
              injector.block ++ Directive.render number path
            else []) ++ line) ∧
      (injector.inject source sink path).stats.lines = (lines source.bytes).length ∧
      (injector.inject source sink path).stats.insertions =
        (lines source.bytes).countP fun line => trim isSourceBlank line = injector.marker := by
  have markers : injector.isMarker = fun line => trim isSourceBlank line = injector.marker := by
    funext line
    rw [isMarker, Bool.eq_iff_iff, beq_iff_eq, decide_eq_true_eq]
  rw [injector.inject_of_unlimited source sink path finished unlimited]
  refine ⟨rfl, ?_, rfl, by rw [markers]⟩
  simp only [Sink.after, Array.toList_appendList, render, renderLines_eq_flatMap, insertion,
    markers, decide_eq_true_eq, List.append_assoc]

/-- A reader that comes to its end is copied whole to a destination without a limit, however
it cuts its data into pieces: the header, then each line behind the block and its directive
if it is a marker line. -/
theorem injectFrom_copies_every_line (injector : Injector) {reader : Reader} (sink : Sink)
    (path : Bytes) (steady : reader.Steady) (finished : reader.lastReport.ending = .finished)
    (unlimited : sink.room = none) :
    (injector.injectFrom reader sink path).failure = none ∧
      (injector.injectFrom reader sink path).sink.accepted.toList =
        sink.accepted.toList ++ Directive.render 1 path ++
          ((lines reader.bytes).zipIdx 1).flatMap (fun (line, number) =>
            (if trim isSourceBlank line = injector.marker then
              injector.block ++ Directive.render number path
            else []) ++ line) ∧
      (injector.injectFrom reader sink path).stats.lines = (lines reader.bytes).length ∧
      (injector.injectFrom reader sink path).stats.insertions =
        (lines reader.bytes).countP fun line => trim isSourceBlank line = injector.marker := by
  rw [injector.injectFrom_eq_inject steady, ← bytes_sourceFrom]
  exact injector.inject_copies_every_line (sourceFrom reader) sink path finished unlimited

/-- The pieces cut a marker line in two, the last line is not terminated, and the end is
reported in other words and together with the last piece. -/
theorem injectFrom_copies_line_across_reads :
    let reader : Reader :=
      { pieces := [ascii "import qual", [], ascii "ified Prelude\nmain", ascii " = x"],
        stop := .reports (.within (ascii "pipe") .endOfData), withData := true }
    let outcome := ({} : Injector).injectFrom reader {} (ascii "A.hs")
    reader.Steady ∧ reader.lastReport.ending = .finished ∧ ({} : Sink).room = none ∧
      outcome.failure = none ∧
      outcome.sink.accepted.toList =
        Directive.render 1 (ascii "A.hs") ++ importBlock defaultImports ++
          Directive.render 1 (ascii "A.hs") ++ ascii "import qualified Prelude\nmain = x" ∧
      outcome.stats.lines = 2 ∧ outcome.stats.insertions = 1 := by
  intro reader outcome
  have steady : reader.Steady := by decide
  obtain ⟨complete, received, counted, inserted⟩ :=
    injectFrom_copies_every_line {} {} (ascii "A.hs") steady rfl rfl
  exact ⟨steady, rfl, rfl, complete, received.trans (by decide +kernel),
    counted.trans (by decide), inserted.trans (by decide +kernel)⟩

end Injector

end ImportSplice
