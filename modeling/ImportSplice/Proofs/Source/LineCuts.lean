import ImportSplice.Source.Lines

/-!
The lines of a text are its only cut into pieces that end after a newline, where
the last piece alone may lack it.  So lines can be counted off from either of two
texts that are put together, provided the first one is terminated.
-/

namespace ImportSplice

/-- Pieces of a text of which each ends at its first newline; the last one may lack
a newline but is not empty. -/
inductive LineCut : List Bytes → Prop where
  | empty : LineCut []
  | unterminated (line : Bytes) (nonempty : line ≠ []) (unbroken : Bytes.newline ∉ line) :
      LineCut [line]
  | terminated (body : Bytes) (rest : List Bytes) (unbroken : Bytes.newline ∉ body)
      (cut : LineCut rest) : LineCut ((body ++ [Bytes.newline]) :: rest)

/-- A text after which a new line starts. -/
def Terminated (text : Bytes) : Prop := text = [] ∨ text.getLast? = some Bytes.newline

theorem lineCut_lines (text : Bytes) : LineCut (lines text) := by
  induction text with
  | nil => exact .empty
  | cons byte rest inductionHypothesis =>
      rw [lines]
      split
      · rename_i newline
        rw [beq_iff_eq.mp newline]
        exact .terminated [] _ (by simp) inductionHypothesis
      · rename_i other
        have apart : Bytes.newline ≠ byte := fun same => other (beq_iff_eq.mpr same.symm)
        generalize lines rest = pieces at inductionHypothesis ⊢
        cases inductionHypothesis with
        | empty => exact .unterminated [byte] (by simp) (by simpa using apart)
        | unterminated line nonempty unbroken =>
            exact .unterminated (byte :: line) (by simp) (by simp [apart, unbroken])
        | terminated body rest unbroken cut =>
            exact .terminated (byte :: body) rest (by simp [apart, unbroken]) cut

theorem LineCut.lines_flatten {pieces : List Bytes} (cut : LineCut pieces) :
    lines pieces.flatten = pieces := by
  induction cut with
  | empty => rfl
  | unterminated line nonempty unbroken =>
      rw [List.flatten_singleton, lines_of_unbroken unbroken nonempty]
  | terminated body rest unbroken cut inductionHypothesis =>
      rw [List.flatten_cons, List.append_assoc, List.singleton_append,
        lines_append_newline unbroken, inductionHypothesis]

/-- There is no other way to cut a text into lines. -/
theorem lines_eq_iff {text : Bytes} {pieces : List Bytes} :
    lines text = pieces ↔ LineCut pieces ∧ pieces.flatten = text := by
  constructor
  · rintro rfl
    exact ⟨lineCut_lines text, lines_flatten text⟩
  · rintro ⟨cut, rfl⟩
    exact cut.lines_flatten

theorem lines_line {body : Bytes} (unbroken : Bytes.newline ∉ body) :
    lines (body ++ [Bytes.newline]) = [body ++ [Bytes.newline]] :=
  lines_append_newline unbroken

theorem lines_ne_nil {text : Bytes} (nonempty : text ≠ []) : lines text ≠ [] := by
  intro none
  have lost := lines_flatten text
  rw [none] at lost
  exact nonempty lost.symm

theorem terminated_line (body : Bytes) : Terminated (body ++ [Bytes.newline]) :=
  .inr List.getLast?_concat

theorem Terminated.append {first second : Bytes} (ended : Terminated first)
    (finished : Terminated second) : Terminated (first ++ second) := by
  rcases finished with rfl | last
  · rwa [List.append_nil]
  · exact .inr (by rw [List.getLast?_append, last, Option.some_or])

/-- Lines are not joined across the end of a terminated text. -/
theorem lines_append {first second : Bytes} (ended : Terminated first) :
    lines (first ++ second) = lines first ++ lines second := by
  induction first with
  | nil => rfl
  | cons byte rest inductionHypothesis =>
      rw [List.cons_append, lines, lines]
      cases rest with
      | nil =>
          have newline : byte = Bytes.newline := by simpa [Terminated] using ended
          rw [if_pos (beq_iff_eq.mpr newline), if_pos (beq_iff_eq.mpr newline)]
          rfl
      | cons next more =>
          have later : Terminated (next :: more) := by
            simpa [Terminated, List.getLast?_cons_cons] using ended
          rw [inductionHypothesis later]
          split
          · rfl
          · cases found : lines (next :: more) with
            | nil => exact absurd found (lines_ne_nil (by simp))
            | cons line others => rfl

end ImportSplice
