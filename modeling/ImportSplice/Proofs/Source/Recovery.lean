import ImportSplice.Proofs.Settings.ModuleNames
import ImportSplice.Proofs.Source.OutputLines
import ImportSplice.Proofs.Stream.Delivery

/-!
The source can be recovered from the output.  Two sources with the same output
agree line by line: where one has a marker line and the other has not, the second
would have to hold a copy of the insertion, and the line after that copy would be
the marker line of the first.  But there the second source has an insertion too, so
the two stay one step apart until one of them ends.
-/

namespace ImportSplice.Injector

variable {injector : Injector} {path line other : Bytes} {number : Nat}
  {pieces others inserted : List Bytes}

theorem outputLines_plain (plain : injector.isMarker line = false) (rest : List Bytes) :
    injector.outputLines path number (line :: rest) =
      line :: injector.outputLines path (number + 1) rest := by
  simp [outputLines, insertedLines, plain]

theorem outputLines_marker (marked : injector.isMarker line = true) (rest : List Bytes) :
    injector.outputLines path number (line :: rest) =
      lines injector.block ++
        Directive.render number path :: line :: injector.outputLines path (number + 1) rest := by
  simp [outputLines, insertedLines, marked]

theorem outputLines_ne_of_empty_block (empty : lines injector.block = [])
    (marked : injector.isMarker line = true) :
    injector.outputLines path number pieces ≠
      line :: injector.outputLines path number others := by
  -- Both sources move on by one marker line, so the first one runs out.
  induction pieces generalizing number line others with
  | nil => simp [outputLines]
  | cons next rest inductionHypothesis =>
      intro same
      cases nextMarked : injector.isMarker next with
      | false =>
          rw [outputLines_plain nextMarked] at same
          rw [(List.cons.inj same).1, marked] at nextMarked
          contradiction
      | true =>
          rw [outputLines_marker nextMarked, empty, List.nil_append] at same
          have later := (List.cons.inj same).2
          cases others with
          | nil => simp [outputLines] at later
          | cons other more =>
              cases otherMarked : injector.isMarker other with
              | false =>
                  rw [outputLines_plain otherMarked] at later
                  rw [← (List.cons.inj later).1, nextMarked] at otherMarked
                  contradiction
              | true =>
                  rw [outputLines_marker otherMarked, empty, List.nil_append] at later
                  exact inductionHypothesis otherMarked (List.cons.inj later).2

theorem outputLines_eq_cons (block : lines injector.block = [Bytes.newline] :: inserted)
    {first : Bytes} (same : injector.outputLines path number pieces = first :: others) :
    first = [Bytes.newline] ∨
      ∃ rest, injector.isMarker first = false ∧
        injector.outputLines path (number + 1) rest = others := by
  cases pieces with
  | nil => simp [outputLines] at same
  | cons next rest =>
      cases marked : injector.isMarker next with
      | false =>
          rw [outputLines_plain marked] at same
          obtain ⟨rfl, later⟩ := List.cons.inj same
          exact .inr ⟨rest, marked, later⟩
      | true =>
          rw [outputLines_marker marked, block] at same
          exact .inl (List.cons.inj same).1.symm

/-- Behind the blank line of a block no output goes on to the marker line: all it
could insert on the way starts with another blank line. -/
theorem outputLines_ne_of_blank_line (block : lines injector.block = [Bytes.newline] :: inserted)
    (blank : injector.isMarker [Bytes.newline] = false)
    (marked : injector.isMarker line = true) (between : List Bytes)
    (noBlank : [Bytes.newline] ∉ between) :
    injector.outputLines path number pieces ≠ between ++ line :: others := by
  induction between generalizing number pieces with
  | nil =>
      intro same
      rcases outputLines_eq_cons block same with rfl | ⟨rest, plain, -⟩
      · simp [marked] at blank
      · simp [marked] at plain
  | cons first between inductionHypothesis =>
      simp only [List.mem_cons, not_or] at noBlank
      intro same
      rcases outputLines_eq_cons block same with rfl | ⟨rest, -, later⟩
      · exact noBlank.1 rfl
      · exact inductionHypothesis noBlank.2 later

/-- A block whose copies in a source cannot be taken for insertions: no block at
all, or one blank line at its start. -/
def Distinguishable (injector : Injector) : Prop :=
  lines injector.block = [] ∨
    ∃ inserted, lines injector.block = [Bytes.newline] :: inserted ∧
      [Bytes.newline] ∉ inserted ∧ injector.isMarker [Bytes.newline] = false

/-- An insertion is never a copied line with what follows it. -/
theorem insertion_ne_plain (distinguishable : injector.Distinguishable)
    (marked : injector.isMarker line = true) (plain : injector.isMarker other = false)
    (rest others : List Bytes) :
    injector.outputLines path number (line :: rest) ≠
      injector.outputLines path number (other :: others) := by
  rw [outputLines_marker marked, outputLines_plain plain]
  rcases distinguishable with empty | ⟨inserted, block, noBlank, blank⟩
  · rw [empty]
    intro same
    exact outputLines_ne_of_empty_block empty marked (List.cons.inj same).2.symm
  · have directive : Directive.render number path ≠ [Bytes.newline] := by
      intro same
      have first := congrArg List.head? same
      simp [Directive.render, Directive.opening, ascii, Bytes.newline] at first
    rw [block]
    intro same
    apply outputLines_ne_of_blank_line block blank marked
      (inserted ++ [Directive.render number path])
    · simp [noBlank, Ne.symm directive]
    · simpa using (List.cons.inj same).2.symm

/-- Two lists of lines with the same output are the same. -/
theorem outputLines_injective (distinguishable : injector.Distinguishable)
    (same : injector.outputLines path number pieces = injector.outputLines path number others) :
    pieces = others := by
  induction pieces generalizing number others with
  | nil =>
      cases others with
      | nil => rfl
      | cons other more => simp [outputLines] at same
  | cons line rest inductionHypothesis =>
      cases others with
      | nil => simp [outputLines] at same
      | cons other more =>
          cases marked : injector.isMarker line <;> cases otherMarked : injector.isMarker other
          · rw [outputLines_plain marked, outputLines_plain otherMarked] at same
            obtain ⟨first, later⟩ := List.cons.inj same
            rw [first, inductionHypothesis later]
          · exact absurd same.symm (insertion_ne_plain distinguishable otherMarked marked more rest)
          · exact absurd same (insertion_ne_plain distinguishable marked otherMarked rest more)
          · rw [outputLines_marker marked, outputLines_marker otherMarked] at same
            obtain ⟨-, behind⟩ := List.cons.inj (List.append_cancel_left same)
            obtain ⟨first, later⟩ := List.cons.inj behind
            rw [first, inductionHypothesis later]

theorem create_marker {choices : List Choice} (built : create choices = .ok injector) :
    injector.marker ≠ [] := by
  unfold create at built
  dsimp only at built
  split at built
  · contradiction
  · rename_i sound
    cases built
    intro empty
    simp [empty] at sound

/-- The blocks of accepted modules are distinguishable, with whatever marker. -/
theorem distinguishable_of_imports {modules : List Bytes} (marker : injector.marker ≠ [])
    (rendered : injector.block = importBlock modules)
    (unbroken : ∀ name ∈ modules, Bytes.newline ∉ name) : injector.Distinguishable := by
  cases modules with
  | nil => exact .inl (by rw [rendered]; rfl)
  | cons name rest =>
      have trimmed : trim isSourceBlank [Bytes.newline] = [] := by decide +kernel
      refine .inr ⟨(name :: rest).map importLine, ?_, ?_, ?_⟩
      · rw [rendered, lines_importBlock (by simp) unbroken]
      · intro member
        obtain ⟨imported, -, same⟩ := List.mem_map.mp member
        exact importLine_ne_blank imported same
      · rw [isMarker, trimmed, beq_eq_false_iff_ne]
        exact marker.symm

theorem inject_determines_source {choices : List Choice} {config : Config}
    {first second : Source} {sink : Sink} (built : create choices = .ok injector)
    (valid : config.validate = .ok ()) (rendered : injector.block = importBlock config.imports)
    (unbroken : Bytes.newline ∉ path) (firstEnds : first.ending = .finished)
    (secondEnds : second.ending = .finished) (unlimited : sink.room = none)
    (same : (injector.inject first sink path).sink.accepted =
      (injector.inject second sink path).sink.accepted) :
    first.bytes = second.bytes := by
  have distinguishable : injector.Distinguishable :=
    distinguishable_of_imports (create_marker built) rendered (Config.unbroken_of_validate valid)
  have ended : Terminated injector.block := by
    rw [rendered]
    exact terminated_importBlock config.imports
  rw [injector.inject_of_unlimited first sink path firstEnds unlimited,
    injector.inject_of_unlimited second sink path secondEnds unlimited] at same
  have received := congrArg Array.toList same
  simp only [Sink.after, Array.toList_appendList] at received
  have cut := congrArg lines (List.append_cancel_left received)
  rw [lines_output ended unbroken, lines_output ended unbroken] at cut
  have equal := outputLines_injective distinguishable (List.cons.inj cut).2
  rw [← lines_flatten first.bytes, equal, lines_flatten]

/-- What a destination without a limit received tells what was read, if the block is one of
accepted modules and the path is unbroken. -/
theorem injectFrom_determines_source {choices : List Choice} {config : Config}
    {first second : Reader} {sink : Sink} (built : create choices = .ok injector)
    (valid : config.validate = .ok ()) (rendered : injector.block = importBlock config.imports)
    (unbroken : Bytes.newline ∉ path) (firstSteady : first.Steady) (secondSteady : second.Steady)
    (firstEnds : first.lastReport.ending = .finished)
    (secondEnds : second.lastReport.ending = .finished) (unlimited : sink.room = none)
    (same : (injector.injectFrom first sink path).sink.accepted =
      (injector.injectFrom second sink path).sink.accepted) :
    first.bytes = second.bytes := by
  rw [injector.injectFrom_eq_inject firstSteady, injector.injectFrom_eq_inject secondSteady]
    at same
  rw [← bytes_sourceFrom first, ← bytes_sourceFrom second]
  exact inject_determines_source built valid rendered unbroken firstEnds secondEnds unlimited same

/-- The marker is the import line of the block itself, and the source holds a copy of
the insertion; it is read in two different ways. -/
theorem injectFrom_determines_copied_insertion :
    let injector : Injector :=
      { marker := ascii "import qualified M", block := importBlock [ascii "M"] }
    let first : Reader :=
      { pieces := [ascii "import qualified M\n\nimport qualified M\n"],
        stop := .reports .endOfData, withData := true }
    let second : Reader :=
      { pieces := [ascii "import ", [], ascii "qualified M\n\nimport", ascii " qualified M\n"],
        stop := .reports .endOfData }
    create [.marker (ascii " import qualified M"), .imports [ascii "M"]] = .ok injector ∧
      Config.validate { imports := [ascii "M"] } = .ok () ∧ Bytes.newline ∉ ascii "A.hs" ∧
      first.Steady ∧ second.Steady ∧ first.lastReport.ending = .finished ∧
      second.lastReport.ending = .finished ∧ ({} : Sink).room = none ∧
      (injector.injectFrom first {} (ascii "A.hs")).sink.accepted =
        (injector.injectFrom second {} (ascii "A.hs")).sink.accepted ∧
      first.bytes = second.bytes := by
  intro injector first second
  have built : create [.marker (ascii " import qualified M"), .imports [ascii "M"]] =
      .ok injector := by cbv
  have valid : Config.validate { imports := [ascii "M"] } = .ok () := by cbv
  have unbroken : Bytes.newline ∉ ascii "A.hs" := by decide
  have firstSteady : first.Steady := by decide
  have secondSteady : second.Steady := by decide
  have sameLines : (sourceFrom first).lines = (sourceFrom second).lines := by decide
  have same : (injector.injectFrom first {} (ascii "A.hs")).sink.accepted =
      (injector.injectFrom second {} (ascii "A.hs")).sink.accepted := by
    rw [injector.injectFrom_eq_inject firstSteady, injector.injectFrom_eq_inject secondSteady,
      injector.inject_congr {} (ascii "A.hs") sameLines rfl]
  exact ⟨built, valid, unbroken, firstSteady, secondSteady, rfl, rfl, rfl, same,
    injectFrom_determines_source built valid rfl unbroken firstSteady secondSteady rfl rfl rfl
      same⟩

end ImportSplice.Injector
