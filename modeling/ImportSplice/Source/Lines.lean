import ImportSplice.Text.Bytes

/-!
Lines of a source text.  A line ends after each newline; what follows the last
newline is a line of its own unless it is empty.  `lines` says which lines a
text has, and `Cutter` finds them one byte at a time while the text arrives.
-/

namespace ImportSplice

/-- The lines of a text, each with its newline. -/
def lines : Bytes → List Bytes
  | [] => []
  | byte :: rest =>
      if byte == Bytes.newline then [byte] :: lines rest
      else match lines rest with
        | [] => [[byte]]
        | line :: more => (byte :: line) :: more

theorem lines_flatten (text : Bytes) : (lines text).flatten = text := by
  induction text with
  | nil => rfl
  | cons byte rest inductionHypothesis =>
      rw [lines]
      split
      · rw [List.flatten_cons, inductionHypothesis, List.singleton_append]
      · cases found : lines rest with
        | nil =>
            rw [found, List.flatten_nil] at inductionHypothesis
            rw [← inductionHypothesis]
            rfl
        | cons line more =>
            rw [found, List.flatten_cons] at inductionHypothesis
            rw [List.flatten_cons, List.cons_append, inductionHypothesis]

/-- A text without a newline is one line, unless it is empty. -/
theorem lines_of_unbroken {text : Bytes} (unbroken : Bytes.newline ∉ text)
    (nonempty : text ≠ []) : lines text = [text] := by
  induction text with
  | nil => contradiction
  | cons byte rest inductionHypothesis =>
      simp only [List.mem_cons, not_or] at unbroken
      rw [lines, if_neg (by simpa using Ne.symm unbroken.1)]
      cases rest with
      | nil => rfl
      | cons next more => rw [inductionHypothesis unbroken.2 (by simp)]

/-- A line ends at the first newline. -/
theorem lines_append_newline {line rest : Bytes} (unbroken : Bytes.newline ∉ line) :
    lines (line ++ Bytes.newline :: rest) = (line ++ [Bytes.newline]) :: lines rest := by
  induction line with
  | nil => rfl
  | cons byte more inductionHypothesis =>
      simp only [List.mem_cons, not_or] at unbroken
      rw [List.cons_append, lines, if_neg (by simpa using Ne.symm unbroken.1),
        inductionHypothesis unbroken.2]
      rfl

/-- Lines found so far, and the start of the line that is still open; both are
kept back to front. -/
structure Cutter where
  complete : List Bytes := []
  unfinished : Bytes := []

namespace Cutter

def push (cutter : Cutter) (byte : UInt8) : Cutter :=
  if byte == Bytes.newline then
    { complete := (byte :: cutter.unfinished).reverse :: cutter.complete, unfinished := [] }
  else
    { cutter with unfinished := byte :: cutter.unfinished }

def feed (cutter : Cutter) (bytes : Bytes) : Cutter := bytes.foldl push cutter

def lines (cutter : Cutter) : List Bytes :=
  match cutter.unfinished with
  | [] => cutter.complete.reverse
  | unfinished => (unfinished.reverse :: cutter.complete).reverse

theorem feed_append (cutter : Cutter) (first second : Bytes) :
    cutter.feed (first ++ second) = (cutter.feed first).feed second :=
  List.foldl_append

/-- Cutting goes on where it stopped: the open line comes before the new text. -/
theorem lines_feed (cutter : Cutter) (text : Bytes)
    (unbroken : Bytes.newline ∉ cutter.unfinished) :
    (cutter.feed text).lines =
      cutter.complete.reverse ++ ImportSplice.lines (cutter.unfinished.reverse ++ text) := by
  induction text generalizing cutter with
  | nil =>
      rw [List.append_nil]
      cases unfinished : cutter.unfinished with
      | nil => simp [feed, Cutter.lines, unfinished, ImportSplice.lines]
      | cons byte earlier =>
          rw [unfinished] at unbroken
          have single : ImportSplice.lines (byte :: earlier).reverse = [(byte :: earlier).reverse] :=
            lines_of_unbroken (by rwa [List.mem_reverse]) (by simp)
          rw [single]
          simp [feed, Cutter.lines, unfinished]
  | cons byte rest inductionHypothesis =>
      change ((cutter.push byte).feed rest).lines = _
      by_cases broken : byte = Bytes.newline
      · subst broken
        rw [inductionHypothesis _ (by simp [push]),
          lines_append_newline (by simpa using unbroken)]
        simp [push]
      · rw [inductionHypothesis _ (by simp [push, broken, unbroken, Ne.symm broken])]
        simp [push, broken]

end Cutter

end ImportSplice
