import ImportSplice.Proofs.Source.OutputLines
import ImportSplice.Proofs.Stream.Delivery

/-!
Diagnostics stay aligned.  A compiler that obeys directives stands at line `n` of
the source when it comes to the output for line `n`: the lines of a block may lead
it anywhere, but the directive behind them leads it back, and a copied line takes it
to the next one.
-/

namespace ImportSplice

namespace Directive

def reach (start : Position) (passed : List Bytes) : Position := passed.foldl follow start

theorem positions_append (start : Position) (earlier later : List Bytes) :
    positions start (earlier ++ later) =
      positions start earlier ++ positions (reach start earlier) later := by
  induction earlier generalizing start with
  | nil => rfl
  | cons line rest inductionHypothesis =>
      rw [List.cons_append, positions, inductionHypothesis, positions]
      rfl

theorem length_positions (start : Position) (text : List Bytes) :
    (positions start text).length = text.length := by
  induction text generalizing start with
  | nil => rfl
  | cons line rest inductionHypothesis =>
      rw [positions, List.length_cons, List.length_cons, inductionHypothesis]

theorem positions_getElem? (start : Position) (earlier later : List Bytes) (line : Bytes) :
    (positions start (earlier ++ line :: later))[earlier.length]? =
      some (reach start earlier, line) := by
  rw [positions_append, List.getElem?_append_right (Nat.le_of_eq (length_positions ..)),
    length_positions, Nat.sub_self, positions]
  rfl

theorem follow_render (position : Position) (number : Int) (path : Bytes) :
    follow position (render number path) = { path, line := number } := by
  rw [follow, parse?_render]

end Directive

namespace Injector

open Directive

variable {injector : Injector} {path line : Bytes}

theorem reach_insertedLines (injector : Injector) (path : Bytes) (number : Nat) (line : Bytes) :
    reach { path, line := number } (injector.insertedLines path number line) =
      { path, line := number } := by
  unfold insertedLines
  split
  · rw [reach, List.foldl_append, List.foldl_cons, List.foldl_nil, follow_render]
  · rfl

/-- The output for some lines leads from the position of the first to the position
after the last. -/
theorem reach_outputLines (injector : Injector) (path : Bytes) (number : Nat)
    {pieces : List Bytes} (plain : ∀ line ∈ pieces, parse? line = none) :
    reach { path, line := number } (injector.outputLines path number pieces) =
      { path, line := (number + pieces.length : Nat) } := by
  induction pieces generalizing number with
  | nil => rfl
  | cons line rest inductionHypothesis =>
      have copied : follow { path, line := number } line = { path, line := (number + 1 : Nat) } := by
        rw [follow, plain line (by simp)]
        rfl
      have inserted := injector.reach_insertedLines path number line
      have remaining := inductionHypothesis (number + 1) fun other member =>
        plain other (List.mem_cons_of_mem _ member)
      rw [reach] at inserted remaining ⊢
      rw [outputLines, List.foldl_append, inserted, List.foldl_cons, copied, remaining,
        List.length_cons, Nat.add_assoc, Nat.add_comm 1]

/-- The output lines before the copy of a line that has others before it. -/
def linesBefore (injector : Injector) (path : Bytes) (earlier : List Bytes) (line : Bytes) :
    List Bytes :=
  Directive.render 1 path ::
    (injector.outputLines path 1 earlier ++
      injector.insertedLines path (earlier.length + 1) line)

theorem lines_output_at (ended : Terminated injector.block) (unbroken : Bytes.newline ∉ path)
    {source : Bytes} {earlier later : List Bytes} (cut : lines source = earlier ++ line :: later) :
    lines (injector.render path source) =
      injector.linesBefore path earlier line ++
        line :: injector.outputLines path (earlier.length + 2) later := by
  rw [lines_output ended unbroken, cut, outputLines_append, outputLines, Nat.add_comm 1]
  simp only [linesBefore, List.cons_append, List.append_assoc]

theorem flatten_linesBefore (ended : Terminated injector.block)
    (unbroken : Bytes.newline ∉ path) (earlier : List Bytes) (line : Bytes) :
    (injector.linesBefore path earlier line).flatten =
      Directive.render 1 path ++ injector.renderLines path 1 earlier ++
        injector.insertion path (earlier.length + 1) line := by
  rw [linesBefore, List.flatten_cons, List.flatten_append, flatten_outputLines ended unbroken,
    ← lines_insertion ended unbroken, lines_flatten, List.append_assoc]

/-- Whatever position the header is at, the position before a copied line is right. -/
theorem reach_linesBefore (injector : Injector) (path : Bytes) (start : Position)
    {earlier : List Bytes} (plain : ∀ line ∈ earlier, parse? line = none) (line : Bytes) :
    reach start (injector.linesBefore path earlier line) =
      { path, line := (earlier.length + 1 : Nat) } := by
  have copied := injector.reach_outputLines path 1 plain
  have inserted := injector.reach_insertedLines path (earlier.length + 1) line
  rw [reach] at copied inserted ⊢
  rw [linesBefore, List.foldl_cons, follow_render, List.foldl_append]
  change List.foldl follow (List.foldl follow { path, line := (1 : Nat) } _) _ = _
  rw [copied, Nat.add_comm 1, inserted]

theorem inject_keeps_positions {source : Source} {index : Nat} (start : Position)
    (finished : source.ending = .finished) (ended : Terminated injector.block)
    (unbroken : Bytes.newline ∉ path)
    (plain : ∀ line ∈ lines source.bytes, parse? line = none)
    (found : (lines source.bytes)[index]? = some line) :
    ∃ before after,
      lines (injector.inject source {} path).sink.accepted.toList = before ++ line :: after ∧
      before.flatten =
        Directive.render 1 path ++
          injector.renderLines path 1 ((lines source.bytes).take index) ++
          injector.insertion path (index + 1) line ∧
      (positions start
          (lines (injector.inject source {} path).sink.accepted.toList))[before.length]? =
        some ({ path, line := index + 1 }, line) := by
  obtain ⟨inside, same⟩ := List.getElem?_eq_some_iff.mp found
  have size : ((lines source.bytes).take index).length = index := by
    rw [List.length_take]
    omega
  have cut : lines source.bytes =
      (lines source.bytes).take index ++ line :: (lines source.bytes).drop (index + 1) := by
    rw [← same, ← List.drop_eq_getElem_cons inside, List.take_append_drop]
  have received : (injector.inject source {} path).sink.accepted.toList =
      injector.render path source.bytes := by
    rw [injector.inject_of_unlimited source {} path finished rfl]
    simp [Sink.after]
  have passed : ∀ other ∈ (lines source.bytes).take index, parse? other = none :=
    fun other member => plain other (List.mem_of_mem_take member)
  have flattened := flatten_linesBefore ended unbroken ((lines source.bytes).take index) line
  have reached := injector.reach_linesBefore path start passed line
  rw [received, lines_output_at ended unbroken cut]
  refine ⟨injector.linesBefore path ((lines source.bytes).take index) line, _, rfl, ?_, ?_⟩
  · rw [flattened, size]
  · rw [positions_getElem?, reached, size]
    rfl

/-- A compiler that reads the output comes to the copy of each line at the start of
an output line, and takes it for that line of what was read. -/
theorem injectFrom_keeps_positions {reader : Reader} {index : Nat} (start : Position)
    (steady : reader.Steady) (finished : reader.lastReport.ending = .finished)
    (ended : Terminated injector.block) (unbroken : Bytes.newline ∉ path)
    (plain : ∀ line ∈ lines reader.bytes, parse? line = none)
    (found : (lines reader.bytes)[index]? = some line) :
    ∃ before after,
      lines (injector.injectFrom reader {} path).sink.accepted.toList = before ++ line :: after ∧
      before.flatten =
        Directive.render 1 path ++
          injector.renderLines path 1 ((lines reader.bytes).take index) ++
          injector.insertion path (index + 1) line ∧
      (positions start
          (lines (injector.injectFrom reader {} path).sink.accepted.toList))[before.length]? =
        some ({ path, line := index + 1 }, line) := by
  rw [injector.injectFrom_eq_inject steady]
  rw [← bytes_sourceFrom] at plain found ⊢
  exact inject_keeps_positions start finished ended unbroken plain found

/-- The block leads to another file, and two insertions stand before the last line. -/
theorem injectFrom_keeps_positions_behind_false_directive :
    let injector : Injector :=
      { marker := ascii "M", block := ascii "x\n" ++ Directive.render 99 (ascii "B.hs") }
    let reader : Reader :=
      { pieces := [ascii "M\n M\t", ascii "\nend"], stop := .reports .endOfData }
    let output := (injector.injectFrom reader {} (ascii "A.hs")).sink.accepted.toList
    reader.Steady ∧ reader.lastReport.ending = .finished ∧ Terminated injector.block ∧
      Bytes.newline ∉ ascii "A.hs" ∧
      (∀ line ∈ lines reader.bytes, parse? line = none) ∧
      (lines reader.bytes)[2]? = some (ascii "end") ∧
      ∃ before after, lines output = before ++ ascii "end" :: after ∧
        (positions { path := [], line := 0 } (lines output))[before.length]? =
          some ({ path := ascii "A.hs", line := 3 }, ascii "end") := by
  intro injector reader output
  have steady : reader.Steady := by decide
  have ended : Terminated injector.block :=
    Terminated.append (.inr (by decide)) (Directive.terminated_render 99 (ascii "B.hs"))
  have unbroken : Bytes.newline ∉ ascii "A.hs" := by decide
  have plain : ∀ line ∈ lines reader.bytes, parse? line = none := by decide
  have found : (lines reader.bytes)[2]? = some (ascii "end") := by decide
  obtain ⟨before, after, cut, -, placed⟩ := injectFrom_keeps_positions
    { path := [], line := 0 } steady rfl ended unbroken plain found
  exact ⟨steady, rfl, ended, unbroken, plain, found, before, after, cut, placed⟩

end Injector

end ImportSplice
