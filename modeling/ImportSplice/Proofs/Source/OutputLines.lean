import ImportSplice.Proofs.Source.DirectiveReading
import ImportSplice.Source.Injector

/-!
The output line by line.  Where the block is terminated and the path is unbroken,
nothing that is put before a line runs into it: the lines of the output are the
header, and for each line of the source the lines of its insertion and the line
itself.  Statements about the output are then about lists of lines.
-/

namespace ImportSplice.Injector

variable {injector : Injector} {path : Bytes} {pieces : List Bytes}

/-- The lines that are put before a line. -/
def insertedLines (injector : Injector) (path : Bytes) (number : Nat) (line : Bytes) :
    List Bytes :=
  if injector.isMarker line then lines injector.block ++ [Directive.render number path] else []

/-- The lines of the output for the lines of a source from a line number on. -/
def outputLines (injector : Injector) (path : Bytes) (number : Nat) :
    List Bytes → List Bytes
  | [] => []
  | line :: rest =>
      injector.insertedLines path number line ++
        line :: injector.outputLines path (number + 1) rest

theorem terminated_insertion (ended : Terminated injector.block) (number : Nat) (line : Bytes) :
    Terminated (injector.insertion path number line) := by
  unfold insertion
  split
  · exact ended.append (Directive.terminated_render number path)
  · exact .inl rfl

theorem lines_insertion_eq (ended : Terminated injector.block) (path : Bytes) (number : Nat)
    (line : Bytes) :
    lines (injector.insertion path number line) =
      if injector.isMarker line then lines injector.block ++ lines (Directive.render number path)
      else [] := by
  unfold insertion
  split
  · rw [lines_append ended]
  · rfl

theorem lines_insertion (ended : Terminated injector.block) (unbroken : Bytes.newline ∉ path)
    (number : Nat) (line : Bytes) :
    lines (injector.insertion path number line) = injector.insertedLines path number line := by
  rw [lines_insertion_eq ended, Directive.lines_render number unbroken, insertedLines]

/-- The lines of an insertion stand before the line it is for, also where a path breaks the line
of its directive. -/
theorem lines_rendered (ended : Terminated injector.block) (path : Bytes) (cut : LineCut pieces)
    (number : Nat) :
    lines (injector.renderLines path number pieces) =
      (pieces.zipIdx number).flatMap fun (line, index) =>
        lines (injector.insertion path index line) ++ [line] := by
  induction cut generalizing number with
  | empty => rfl
  | unterminated line nonempty whole =>
      rw [renderLines, List.append_assoc, lines_append (terminated_insertion ended number line),
        renderLines, List.append_nil, lines_of_unbroken whole nonempty]
      simp
  | terminated body rest whole cut inductionHypothesis =>
      rw [renderLines, List.append_assoc, lines_append (terminated_insertion ended number _),
        lines_append (terminated_line body), lines_line whole, inductionHypothesis,
        List.zipIdx_cons, List.flatMap_cons, List.append_assoc]

theorem outputLines_eq_flatMap (injector : Injector) (path : Bytes) (number : Nat)
    (pieces : List Bytes) :
    injector.outputLines path number pieces =
      (pieces.zipIdx number).flatMap fun (line, index) =>
        injector.insertedLines path index line ++ [line] := by
  induction pieces generalizing number with
  | nil => rfl
  | cons line rest inductionHypothesis =>
      rw [outputLines, inductionHypothesis, List.zipIdx_cons, List.flatMap_cons, List.append_assoc,
        List.singleton_append]

theorem lines_renderLines (ended : Terminated injector.block) (unbroken : Bytes.newline ∉ path)
    (cut : LineCut pieces) (number : Nat) :
    lines (injector.renderLines path number pieces) = injector.outputLines path number pieces := by
  rw [lines_rendered ended path cut, outputLines_eq_flatMap]
  simp only [lines_insertion ended unbroken]

theorem lines_output (ended : Terminated injector.block) (unbroken : Bytes.newline ∉ path)
    (source : Bytes) :
    lines (injector.render path source) =
      Directive.render 1 path :: injector.outputLines path 1 (lines source) := by
  rw [render, lines_append (Directive.terminated_render 1 path),
    Directive.lines_render 1 unbroken, lines_renderLines ended unbroken (lineCut_lines source)]
  rfl

theorem flatten_outputLines (ended : Terminated injector.block)
    (unbroken : Bytes.newline ∉ path) (number : Nat) (pieces : List Bytes) :
    (injector.outputLines path number pieces).flatten =
      injector.renderLines path number pieces := by
  induction pieces generalizing number with
  | nil => rfl
  | cons line rest inductionHypothesis =>
      rw [outputLines, renderLines, List.flatten_append, List.flatten_cons, inductionHypothesis,
        ← lines_insertion ended unbroken, ImportSplice.lines_flatten, List.append_assoc]

theorem outputLines_append (injector : Injector) (path : Bytes) (number : Nat)
    (earlier later : List Bytes) :
    injector.outputLines path number (earlier ++ later) =
      injector.outputLines path number earlier ++
        injector.outputLines path (number + earlier.length) later := by
  induction earlier generalizing number with
  | nil => rfl
  | cons line rest inductionHypothesis =>
      rw [List.cons_append, outputLines, outputLines, inductionHypothesis, List.length_cons,
        Nat.add_assoc number 1, Nat.add_comm 1]
      simp

end ImportSplice.Injector
