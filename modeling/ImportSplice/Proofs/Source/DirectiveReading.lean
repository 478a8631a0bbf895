import Mathlib.Data.List.TakeDrop
import Mathlib.Data.List.TakeWhile
import ImportSplice.Proofs.Source.LineCuts
import ImportSplice.Proofs.Text.Decimals
import ImportSplice.Source.Directive

/-!
A directive is read back from its two ends: the number stops at the first blank,
because no decimal integer holds one, and the path is what is left between the
quotes.  So a directive tells its number and its path even if other directives stand
in the path.  A directive whose path holds no newline is one line.
-/

namespace ImportSplice

namespace Bytes

theorem cutAt_eq_some_iff {separator : UInt8} {text before after : Bytes} :
    cutAt separator text = some (before, after) ↔
      text = before ++ separator :: after ∧ separator ∉ before := by
  have parted := List.takeWhile_append_dropWhile (p := (· != separator)) (l := text)
  rw [cutAt, List.span_eq_takeWhile_dropWhile]
  constructor
  · intro cut
    cases remaining : text.dropWhile (· != separator) with
    | nil => simp [remaining] at cut
    | cons byte rest =>
        simp only [remaining, Option.some.injEq, Prod.mk.injEq] at cut
        obtain ⟨rfl, rfl⟩ := cut
        have stopped : (byte != separator) = false := by
          simpa [remaining] using List.head?_dropWhile_not (· != separator) text
        rw [bne_eq_false_iff_eq] at stopped
        subst stopped
        rw [remaining] at parted
        refine ⟨parted.symm, fun inside => ?_⟩
        simpa using List.mem_takeWhile_imp inside
  · rintro ⟨rfl, absent⟩
    have stays : ∀ byte ∈ before, (byte != separator) = true := by
      intro byte member
      rw [bne_iff_ne]
      rintro rfl
      exact absent member
    rw [List.takeWhile_append_of_pos stays, List.dropWhile_append_of_pos stays,
      List.takeWhile_cons_of_neg (by simp), List.dropWhile_cons_of_neg (by simp), List.append_nil]

end Bytes

namespace Directive

/-- The spellings of an integer: at least one digit, behind a sign or alone. -/
inductive Numeral : Bytes → Int → Prop where
  | plain {digits : Bytes} (nonempty : digits ≠ [])
      (spelled : ∀ byte ∈ digits, Bytes.isDigit byte = true) :
      Numeral digits (Bytes.decimalValue digits)
  | negative {digits : Bytes} (nonempty : digits ≠ [])
      (spelled : ∀ byte ∈ digits, Bytes.isDigit byte = true) :
      Numeral (45 :: digits) (-Bytes.decimalValue digits)

variable {text numeral path : Bytes} {number : Int}

theorem numeral_signedDecimal (number : Int) : Numeral (Bytes.signedDecimal number) number := by
  cases number with
  | ofNat number =>
      have spells := Numeral.plain (Bytes.decimal_ne_nil number) (Bytes.decimal_digits number)
      rwa [Bytes.decimalValue_decimal] at spells
  | negSucc number =>
      have spells :=
        Numeral.negative (Bytes.decimal_ne_nil (number + 1)) (Bytes.decimal_digits (number + 1))
      rwa [Bytes.decimalValue_decimal] at spells

theorem Numeral.not_mem {byte : UInt8} (spells : Numeral numeral number)
    (noDigit : Bytes.isDigit byte = false) (noSign : byte ≠ 45) : byte ∉ numeral := by
  intro member
  cases spells with
  | plain nonempty spelled => simp [spelled byte member] at noDigit
  | negative nonempty spelled =>
      rcases List.mem_cons.mp member with sign | digit
      · exact noSign sign
      · simp [spelled byte digit] at noDigit

theorem numeral_of_readNumber? (read : readNumber? text = some number) : Numeral text number := by
  rw [readNumber?.eq_def] at read
  split at read
  · contradiction
  · rename_i digits
    split at read
    · contradiction
    · rename_i proper
      simp only [Bool.or_eq_true, Bool.not_eq_true', not_or, List.isEmpty_iff,
        Bool.not_eq_false, List.all_eq_true] at proper
      rw [← Option.some.inj read]
      exact .negative proper.1 proper.2
  · rename_i nonempty unsigned
    split at read
    · rename_i proper
      rw [← Option.some.inj read]
      exact .plain nonempty (List.all_eq_true.mp proper)
    · contradiction

theorem Numeral.readNumber?_eq (spells : Numeral text number) :
    readNumber? text = some number := by
  cases spells with
  | plain nonempty spelled =>
      rw [readNumber?.eq_def]
      split
      · contradiction
      · exact absurd (spelled 45 (by simp)) (by decide)
      · rw [if_pos (List.all_eq_true.mpr spelled)]
  | negative nonempty spelled =>
      rw [readNumber?, List.isEmpty_eq_false_iff.mpr nonempty, List.all_eq_true.mpr spelled]
      rfl

theorem readNumber?_eq_some_iff : readNumber? text = some number ↔ Numeral text number :=
  ⟨numeral_of_readNumber?, Numeral.readNumber?_eq⟩

theorem parse?_of_numeral (spells : Numeral numeral number) (path : Bytes) :
    parse? (opening ++ numeral ++ ascii " \"" ++ path ++ closing) = some (number, path) := by
  have spaceless : (32 : UInt8) ∉ numeral := spells.not_mem (by decide) (by decide)
  have shape : opening ++ numeral ++ ascii " \"" ++ path ++ closing =
      opening ++ (numeral ++ 32 :: 34 :: (path ++ closing)) := by
    simp [show ascii " \"" = [32, 34] from rfl]
  have opened : opening.isPrefixOf (opening ++ numeral ++ ascii " \"" ++ path ++ closing) := by
    rw [shape, List.isPrefixOf_iff_prefix]
    exact List.prefix_append ..
  have closed : closing.isSuffixOf (opening ++ numeral ++ ascii " \"" ++ path ++ closing) := by
    rw [List.isSuffixOf_iff_suffix]
    exact List.suffix_append ..
  rw [parse?, opened, closed, shape, List.drop_left,
    Bytes.cutAt_eq_some_iff.mpr ⟨rfl, spaceless⟩]
  simp [spells.readNumber?_eq]

theorem shape_of_parse? (read : parse? text = some (number, path)) :
    ∃ numeral, Numeral numeral number ∧
      text = opening ++ numeral ++ ascii " \"" ++ path ++ closing := by
  unfold parse? at read
  split at read
  · rename_i framed
    rw [Bool.and_eq_true, List.isPrefixOf_iff_prefix, List.isSuffixOf_iff_suffix] at framed
    obtain ⟨⟨inside, rfl⟩, closed⟩ := framed
    rw [List.drop_left] at read
    split at read
    · rename_i numeral rest cut
      obtain ⟨rfl, -⟩ := Bytes.cutAt_eq_some_iff.mp cut
      split at read
      · rename_i room
        obtain ⟨line, spelled, same⟩ := Option.map_eq_some_iff.mp read
        cases same
        -- What follows the quote is long enough to hold the whole closing.
        have ending : closing <:+ rest := by
          refine List.suffix_of_suffix_length_le closed ?_ room
          exact ⟨opening ++ numeral ++ [32, 34], by simp⟩
        obtain ⟨path, rfl⟩ := ending
        refine ⟨numeral, readNumber?_eq_some_iff.mp spelled, ?_⟩
        simp [show ascii " \"" = [32, 34] from rfl]
      · contradiction
    · contradiction
  · contradiction

/-- A text is read as a directive if it is one up to the spelling of its number. -/
theorem parse?_eq_some_iff :
    parse? text = some (number, path) ↔ ∃ numeral, Numeral numeral number ∧
      text = opening ++ numeral ++ ascii " \"" ++ path ++ closing := by
  constructor
  · exact shape_of_parse?
  · rintro ⟨numeral, spells, rfl⟩
    exact parse?_of_numeral spells path

theorem parse?_render (number : Int) (path : Bytes) :
    parse? (render number path) = some (number, path) :=
  parse?_of_numeral (numeral_signedDecimal number) path

/-- A directive tells its number and its path, whatever the path holds, so no two pairs share
one; and nothing is read as a directive that is not one, up to the spelling of its number. -/
theorem render_tells_line_and_path :
    (∀ (number : Int) (path : Bytes), parse? (render number path) = some (number, path)) ∧
    (∀ (first second : Int) (path other : Bytes),
      render first path = render second other ↔ first = second ∧ path = other) ∧
    ∀ (text : Bytes) (number : Int) (path : Bytes),
      parse? text = some (number, path) ↔ ∃ numeral, Numeral numeral number ∧
        text = opening ++ numeral ++ ascii " \"" ++ path ++ closing := by
  refine ⟨parse?_render, ?_, fun _ _ _ => parse?_eq_some_iff⟩
  intro first second path other
  constructor
  · intro same
    have read := congrArg parse? same
    rw [parse?_render, parse?_render] at read
    exact Prod.mk.inj (Option.some.inj read)
  · rintro ⟨rfl, rfl⟩
    rfl

-- The path is a directive itself.
example : parse? (render (-9223372036854775808) (render 7 (ascii "A.hs"))) =
    some (-9223372036854775808, render 7 (ascii "A.hs")) := by
  decide +kernel

theorem render_eq_line (number : Int) {path : Bytes} (unbroken : Bytes.newline ∉ path) :
    ∃ body, Bytes.newline ∉ body ∧ render number path = body ++ [Bytes.newline] := by
  have digits : Bytes.newline ∉ Bytes.signedDecimal number :=
    (numeral_signedDecimal number).not_mem (by decide) (by decide)
  refine ⟨opening ++ Bytes.signedDecimal number ++ ascii " \"" ++ path ++ ascii "\" #-\x7d", ?_, ?_⟩
  · simp only [List.mem_append, not_or]
    exact ⟨⟨⟨⟨by decide, digits⟩, by decide⟩, unbroken⟩, by decide⟩
  · simp [render, closing, ascii, Bytes.newline]

theorem lines_render (number : Int) {path : Bytes} (unbroken : Bytes.newline ∉ path) :
    lines (render number path) = [render number path] := by
  obtain ⟨body, whole, shape⟩ := render_eq_line number unbroken
  rw [shape, lines_line whole]

theorem terminated_render (number : Int) (path : Bytes) : Terminated (render number path) :=
  .inr (by rw [render, List.getLast?_append]; rfl)

end Directive

end ImportSplice
