import Mathlib.Data.List.Induction
import ImportSplice.Text.Blank

/-!
What trimming takes away.  A character starts with a byte that no character goes on
with, so reading from the front and reading from the back cut a padding into the same
characters, and neither reads across the border between a padding and the text in it.
So a text trimmed of more kinds of blanks lies within the text trimmed of fewer.
-/

namespace ImportSplice

namespace Utf8

variable {front rest text bytes : Bytes} {point : Nat}

/-- No character goes on with the byte that another one starts with. -/
theorem scalar?_shape (decoded : scalar? bytes = some point) :
    ∃ lead trail, bytes = lead :: trail ∧ isContinuation lead = false ∧
      ∀ byte ∈ trail, isContinuation byte = true := by
  have apart : ∀ byte : UInt8, byte < 0x80 ∨ 0xC2 ≤ byte → isContinuation byte = false := by
    intro byte outside
    simp only [isContinuation, Bool.and_eq_false_iff, decide_eq_false_iff_not,
      UInt8.le_iff_toNat_le, UInt8.lt_iff_toNat_lt, UInt8.reduceToNat] at outside ⊢
    omega
  have above : ∀ low byte : UInt8, 0xC2 ≤ low → low ≤ byte → isContinuation byte = false :=
    fun low byte high least => apart byte (.inr (UInt8.le_trans high least))
  match bytes with
  | [] => simp [scalar?] at decoded
  | [a] =>
      simp only [scalar?, Option.ite_none_right_eq_some] at decoded
      exact ⟨a, [], rfl, apart a (.inl decoded.1), by simp⟩
  | [a, b] =>
      simp only [scalar?, Option.ite_none_right_eq_some, Bool.and_eq_true, decide_eq_true_eq]
        at decoded
      obtain ⟨⟨⟨low, -⟩, second⟩, -⟩ := decoded
      exact ⟨a, [b], rfl, apart a (.inr low), by simpa using second⟩
  | [a, b, c] =>
      simp only [scalar?, Option.ite_none_right_eq_some, Bool.and_eq_true, decide_eq_true_eq]
        at decoded
      obtain ⟨⟨⟨⟨⟨⟨low, -⟩, second⟩, third⟩, -⟩, -⟩, -⟩ := decoded
      exact ⟨a, [b, c], rfl, above 0xE0 a (by decide) low, by simp [second, third]⟩
  | [a, b, c, d] =>
      simp only [scalar?, Option.ite_none_right_eq_some, Bool.and_eq_true, decide_eq_true_eq]
        at decoded
      obtain ⟨⟨⟨⟨⟨⟨⟨low, -⟩, second⟩, third⟩, fourth⟩, -⟩, -⟩, -⟩ := decoded
      exact ⟨a, [b, c, d], rfl, above 0xF0 a (by decide) low, by simp [second, third, fourth]⟩
  | _ :: _ :: _ :: _ :: _ :: _ => simp [scalar?] at decoded

/-- The number of bytes of a character that starts with a byte. -/
def width (lead : UInt8) : Nat :=
  if lead < 0x80 then 1 else if lead < 0xE0 then 2 else if lead < 0xF0 then 3 else 4

theorem scalar?_length {lead : UInt8} {trail : Bytes}
    (decoded : scalar? (lead :: trail) = some point) : (lead :: trail).length = width lead := by
  unfold width
  simp only [UInt8.lt_iff_toNat_lt, UInt8.reduceToNat]
  match trail with
  | [] =>
      simp only [scalar?, Option.ite_none_right_eq_some, UInt8.lt_iff_toNat_lt,
        UInt8.reduceToNat] at decoded
      rw [if_pos decoded.1]
      rfl
  | [b] =>
      simp only [scalar?, Option.ite_none_right_eq_some, Bool.and_eq_true, decide_eq_true_eq,
        UInt8.le_iff_toNat_le, UInt8.reduceToNat] at decoded
      rw [if_neg (by omega), if_pos (by omega)]
      rfl
  | [b, c] =>
      simp only [scalar?, Option.ite_none_right_eq_some, Bool.and_eq_true, decide_eq_true_eq,
        UInt8.le_iff_toNat_le, UInt8.reduceToNat] at decoded
      rw [if_neg (by omega), if_neg (by omega), if_pos (by omega)]
      rfl
  | [b, c, d] =>
      simp only [scalar?, Option.ite_none_right_eq_some, Bool.and_eq_true, decide_eq_true_eq,
        UInt8.le_iff_toNat_le, UInt8.reduceToNat] at decoded
      rw [if_neg (by omega), if_neg (by omega), if_neg (by omega)]
      rfl
  | _ :: _ :: _ :: _ :: _ => simp [scalar?] at decoded

/-- No character starts with another one. -/
theorem scalar?_front {after : Bytes} {other : Nat}
    (decoded : scalar? (front ++ after) = some point) (shorter : scalar? front = some other) :
    after = [] := by
  obtain ⟨lead, trail, rfl, -⟩ := scalar?_shape shorter
  rw [List.cons_append] at decoded
  have long := scalar?_length decoded
  have short := scalar?_length shorter
  simp only [List.length_cons, List.length_append] at long short
  exact List.eq_nil_of_length_eq_zero (by omega)

/-- No character ends with another one. -/
theorem scalar?_suffix {before : Bytes} {other : Nat}
    (decoded : scalar? (before ++ rest) = some point) (shorter : scalar? rest = some other) :
    before = [] := by
  obtain ⟨lead, trail, rfl, leads, -⟩ := scalar?_shape shorter
  obtain ⟨start, more, whole, -, continued⟩ := scalar?_shape decoded
  cases before with
  | nil => rfl
  | cons byte tail =>
      rw [List.cons_append, List.cons.injEq] at whole
      have inside := continued lead (by rw [← whole.2]; simp)
      simp [leads] at inside

/-- A character that starts before another one ends before it. -/
theorem scalar?_before_char {before char after : Bytes} {other : Nat}
    (read : scalar? front = some other) (decoded : scalar? char = some point)
    (started : before ≠ []) (parts : before ++ (char ++ after) = front ++ rest) :
    ∃ between, before = front ++ between ∧ rest = between ++ (char ++ after) := by
  rcases List.append_eq_append_iff.mp parts with ⟨across, longer, left⟩ | ⟨between, ended, later⟩
  · cases across with
    | nil => exact ⟨[], by simpa using longer.symm, by simpa using left.symm⟩
    | cons byte tail =>
        exfalso
        -- The first character would go on with the byte that starts the second one.
        obtain ⟨lead, trail, shape, -, continued⟩ := scalar?_shape read
        obtain ⟨start, more, rfl, starts, -⟩ := scalar?_shape decoded
        obtain ⟨head, others, rfl⟩ := List.exists_cons_of_ne_nil started
        rw [longer, List.cons_append, List.cons.injEq] at shape
        rw [List.cons_append, List.cons_append, List.cons.injEq] at left
        have inside := continued byte (by rw [← shape.2]; simp)
        rw [← left.1, starts] at inside
        contradiction
  · exact ⟨between, ended, later⟩

theorem scalar?_width (decoded : scalar? bytes = some point) :
    bytes.length = 1 ∨ bytes.length = 2 ∨ bytes.length = 3 ∨ bytes.length = 4 := by
  obtain ⟨lead, trail, rfl, -⟩ := scalar?_shape decoded
  rw [scalar?_length decoded, width]
  repeat' split
  all_goals simp

/-- The shortest reading of one to four bytes is the one that is found. -/
theorem findSome?_shortest {α : Type} {reading : Nat → Option α} {size : Nat} {result : α}
    (width : size = 1 ∨ size = 2 ∨ size = 3 ∨ size = 4)
    (shorter : ∀ count, count < size → reading count = none) (found : reading size = some result) :
    [1, 2, 3, 4].findSome? reading = some result := by
  simp only [List.findSome?_cons]
  rcases width with rfl | rfl | rfl | rfl
  · rw [found]
  · rw [shorter 1 (by omega), found]
  · rw [shorter 1 (by omega), shorter 2 (by omega), found]
  · rw [shorter 1 (by omega), shorter 2 (by omega), shorter 3 (by omega), found]

theorem first?_parts (read : first? text = some (point, rest)) :
    ∃ front, scalar? front = some point ∧ text = front ++ rest := by
  obtain ⟨width, -, found⟩ := List.exists_of_findSome?_eq_some read
  obtain ⟨scalar, decoded, same⟩ := Option.map_eq_some_iff.mp found
  cases same
  exact ⟨text.take width, decoded, (List.take_append_drop width text).symm⟩

theorem first?_append (decoded : scalar? front = some point) (rest : Bytes) :
    first? (front ++ rest) = some (point, rest) := by
  apply findSome?_shortest (scalar?_width decoded)
  · intro count fewer
    rw [Option.map_eq_none_iff, List.take_append_of_le_length (by omega),
      Option.eq_none_iff_forall_ne_some]
    intro other read
    rw [← List.take_append_drop count front] at decoded
    have nothing := List.drop_eq_nil_iff.mp (scalar?_front decoded read)
    omega
  · rw [List.take_left, decoded, Option.map_some, List.drop_left]

theorem last?_append (decoded : scalar? front = some point) (rest : Bytes) :
    last? (front.reverse ++ rest) = some (point, rest) := by
  have width := scalar?_width decoded
  rw [← List.length_reverse] at width
  apply findSome?_shortest width
  · intro count fewer
    rw [List.length_reverse] at fewer
    rw [Option.map_eq_none_iff, List.take_append_of_le_length (by simp; omega), List.take_reverse,
      List.reverse_reverse, Option.eq_none_iff_forall_ne_some]
    intro other read
    rw [← List.take_append_drop (front.length - count) front] at decoded
    have nothing := List.take_eq_nil_iff.mp (scalar?_suffix decoded read)
    rcases nothing with whole | empty
    · omega
    · simp [empty] at fewer
  · rw [List.take_left, List.reverse_reverse, decoded, Option.map_some, List.drop_left]

theorem last?_parts {reversed : Bytes} (read : last? reversed = some (point, rest)) :
    ∃ back, scalar? back = some point ∧ reversed = back.reverse ++ rest := by
  obtain ⟨width, -, found⟩ := List.exists_of_findSome?_eq_some read
  obtain ⟨scalar, decoded, same⟩ := Option.map_eq_some_iff.mp found
  cases same
  exact ⟨(reversed.take width).reverse, decoded,
    by rw [List.reverse_reverse, List.take_append_drop]⟩

end Utf8

open Utf8

variable {blank wide : Nat → Bool} {text : Bytes}

/-- The encoding of one blank character. -/
def BlankChar (blank : Nat → Bool) (char : Bytes) : Prop :=
  ∃ point, scalar? char = some point ∧ blank point = true

/-- Texts of blank characters only. -/
def Padding (blank : Nat → Bool) (text : Bytes) : Prop :=
  ∃ chars : List Bytes, (∀ char ∈ chars, BlankChar blank char) ∧ text = chars.flatten

/-- Texts at whose ends trimming stops. -/
structure Trimmed (blank : Nat → Bool) (text : Bytes) : Prop where
  front : ∀ point rest, first? text = some (point, rest) → blank point = false
  back : ∀ point rest, last? text.reverse = some (point, rest) → blank point = false

theorem trimFront_char {char : Bytes} (isBlank : BlankChar blank char) (rest : Bytes) :
    trimFront blank (char ++ rest) = trimFront blank rest := by
  obtain ⟨point, decoded, holds⟩ := isBlank
  rw [trimFront]
  split
  · rename_i other tail read
    rw [first?_append decoded] at read
    cases read
    rw [if_pos holds]
  · rename_i read
    rw [first?_append decoded] at read
    contradiction

theorem trimFront_of_visible
    (visible : ∀ point rest, first? text = some (point, rest) → blank point = false) :
    trimFront blank text = text := by
  rw [trimFront]
  split
  · rename_i point rest read
    simp [visible point rest read]
  · rfl

theorem trimBack_char {char : Bytes} (isBlank : BlankChar blank char) (rest : Bytes) :
    trimBack blank (char.reverse ++ rest) = trimBack blank rest := by
  obtain ⟨point, decoded, holds⟩ := isBlank
  rw [trimBack]
  split
  · rename_i other tail read
    rw [last?_append decoded] at read
    cases read
    rw [if_pos holds]
  · rename_i read
    rw [last?_append decoded] at read
    contradiction

theorem trimBack_of_visible {reversed : Bytes}
    (visible : ∀ point rest, last? reversed = some (point, rest) → blank point = false) :
    trimBack blank reversed = reversed := by
  rw [trimBack]
  split
  · rename_i point rest read
    simp [visible point rest read]
  · rfl

/-- What is trimmed from the front is a padding, and it is all of it. -/
theorem trimFront_parts (blank : Nat → Bool) (text : Bytes) :
    ∃ chars : List Bytes, (∀ char ∈ chars, BlankChar blank char) ∧
      text = chars.flatten ++ trimFront blank text ∧
      ∀ point rest, first? (trimFront blank text) = some (point, rest) → blank point = false := by
  fun_induction trimFront blank text with
  | case1 text point rest read shorter holds inductionHypothesis =>
      obtain ⟨front, decoded, parts⟩ := first?_parts read
      obtain ⟨chars, blanks, whole, visible⟩ := inductionHypothesis
      refine ⟨front :: chars, ?_, ?_, visible⟩
      · rw [List.forall_mem_cons]
        exact ⟨⟨point, decoded, holds⟩, blanks⟩
      · rw [List.flatten_cons, List.append_assoc, ← whole, parts]
  | case2 text point rest read shorter visible =>
      refine ⟨[], by simp, by simp, ?_⟩
      intro other tail again
      rw [read] at again
      cases again
      simpa using visible
  | case3 text read =>
      refine ⟨[], by simp, by simp, ?_⟩
      intro other tail again
      rw [read] at again
      contradiction

theorem trimBack_parts (blank : Nat → Bool) (reversed : Bytes) :
    ∃ chars : List Bytes, (∀ char ∈ chars, BlankChar blank char) ∧
      reversed = chars.flatten.reverse ++ trimBack blank reversed ∧
      ∀ point rest, last? (trimBack blank reversed) = some (point, rest) → blank point = false := by
  fun_induction trimBack blank reversed with
  | case1 reversed point rest read shorter holds inductionHypothesis =>
      obtain ⟨back, decoded, parts⟩ := last?_parts read
      obtain ⟨chars, blanks, whole, visible⟩ := inductionHypothesis
      refine ⟨chars ++ [back], ?_, ?_, visible⟩
      · rw [List.forall_mem_append, List.forall_mem_singleton]
        exact ⟨blanks, ⟨point, decoded, holds⟩⟩
      · rw [List.flatten_append, List.flatten_singleton, List.reverse_append, List.append_assoc,
          ← whole, parts]
  | case2 reversed point rest read shorter visible =>
      refine ⟨[], by simp, by simp, ?_⟩
      intro other tail again
      rw [read] at again
      cases again
      simpa using visible
  | case3 reversed read =>
      refine ⟨[], by simp, by simp, ?_⟩
      intro other tail again
      rw [read] at again
      contradiction

/-- A text is its trimmed part between two paddings. -/
theorem trim_parts (blank : Nat → Bool) (text : Bytes) :
    ∃ before after : List Bytes, (∀ char ∈ before, BlankChar blank char) ∧
      (∀ char ∈ after, BlankChar blank char) ∧
      text = before.flatten ++ (trim blank text ++ after.flatten) ∧
      Trimmed blank (trim blank text) := by
  obtain ⟨before, padded, whole, visible⟩ := trimFront_parts blank text
  obtain ⟨after, trailing, parts, ended⟩ := trimBack_parts blank (trimFront blank text).reverse
  have middle : trimFront blank text = trim blank text ++ after.flatten := by
    rw [trim, ← List.reverse_inj, List.reverse_append, List.reverse_reverse, ← parts]
  refine ⟨before, after, padded, trailing, by rw [← middle, ← whole], ?_, ?_⟩
  · intro point rest read
    obtain ⟨front, decoded, start⟩ := first?_parts read
    apply visible point (rest ++ after.flatten)
    rw [middle, start, List.append_assoc, first?_append decoded]
  · rw [trim, List.reverse_reverse]
    exact ended

theorem trimFront_padding {chars : List Bytes} (blanks : ∀ char ∈ chars, BlankChar blank char)
    (rest : Bytes) : trimFront blank (chars.flatten ++ rest) = trimFront blank rest := by
  induction chars with
  | nil => rfl
  | cons char more inductionHypothesis =>
      rw [List.forall_mem_cons] at blanks
      rw [List.flatten_cons, List.append_assoc, trimFront_char blanks.1,
        inductionHypothesis blanks.2]

/-- Nothing is left of a padding, and of nothing else. -/
theorem trim_eq_nil_iff : trim blank text = [] ↔ Padding blank text := by
  constructor
  · intro empty
    obtain ⟨before, after, padded, trailing, whole, -⟩ := trim_parts blank text
    refine ⟨before ++ after, ?_, ?_⟩
    · rw [List.forall_mem_append]
      exact ⟨padded, trailing⟩
    · rw [List.flatten_append]
      simpa [empty] using whole
  · rintro ⟨chars, blanks, rfl⟩
    have front := trimFront_padding blanks []
    rw [List.append_nil] at front
    rw [trim, front, trimFront_of_visible (by simp [first?, scalar?]), List.reverse_nil,
      trimBack_of_visible (by simp [last?, scalar?]), List.reverse_nil]

/-- A reading from the front does not run into a padding behind the text. -/
theorem first?_before_padding {middle rest : Bytes} {point : Nat} {after : List Bytes}
    (nonempty : middle ≠ []) (blanks : ∀ char ∈ after, BlankChar wide char)
    (read : first? (middle ++ after.flatten) = some (point, rest)) :
    ∃ inner, first? middle = some (point, inner) := by
  cases after with
  | nil => exact ⟨rest, by simpa using read⟩
  | cons char more =>
      obtain ⟨_, blankRead, -⟩ := blanks char (by simp)
      obtain ⟨front, decoded, parts⟩ := first?_parts read
      obtain ⟨between, within, -⟩ := scalar?_before_char decoded blankRead nonempty parts
      exact ⟨between, by rw [within, first?_append decoded]⟩

/-- A reading from the back does not run into a padding before the text. -/
theorem last?_behind_padding {middle rest : Bytes} {point : Nat} {before : List Bytes}
    (nonempty : middle ≠ []) (blanks : ∀ char ∈ before, BlankChar wide char)
    (read : last? (before.flatten ++ middle).reverse = some (point, rest)) :
    ∃ inner, last? middle.reverse = some (point, inner) := by
  obtain ⟨back, decoded, parts⟩ := last?_parts read
  have whole : before.flatten ++ middle = rest.reverse ++ back := by
    rw [← List.reverse_inj, parts, List.reverse_append, List.reverse_reverse]
  rcases List.append_eq_append_iff.mp whole with ⟨inner, -, within⟩ | ⟨across, left, longer⟩
  · exact ⟨inner.reverse, by rw [within, List.reverse_append, last?_append decoded]⟩
  · by_cases crossing : across = []
    · exact ⟨[], by rw [← last?_append decoded []]; simp [longer, crossing]⟩
    · exfalso
      rcases List.eq_nil_or_concat before with rfl | ⟨init, char, rfl⟩
      · simp [crossing] at left
      obtain ⟨_, blankRead, -⟩ := blanks char (by simp)
      rw [List.concat_eq_append, List.flatten_append, List.flatten_singleton] at left
      obtain ⟨lead, trail, shape, leads, continued⟩ := scalar?_shape decoded
      obtain ⟨start, more, startShape, starts, carried⟩ := scalar?_shape blankRead
      rcases List.append_eq_append_iff.mp left with ⟨early, -, charShape⟩ | ⟨early, -, acrossParts⟩
      · -- The character starts within the last blank, so it starts with it.
        cases early with
        | nil =>
            rw [List.nil_append] at charShape
            rw [longer, ← charShape] at decoded
            exact nonempty (scalar?_front decoded blankRead)
        | cons byte tail =>
            obtain ⟨head, others, rfl⟩ := List.exists_cons_of_ne_nil crossing
            rw [longer, List.cons_append, List.cons.injEq] at shape
            rw [startShape, List.cons_append, List.cons.injEq] at charShape
            have inside := carried head (by rw [charShape.2]; simp)
            rw [shape.1, leads] at inside
            contradiction
      · -- The last blank starts within the character.
        cases early with
        | nil =>
            rw [List.nil_append] at acrossParts
            rw [longer, acrossParts] at decoded
            exact nonempty (scalar?_front decoded blankRead)
        | cons byte tail =>
            rw [longer, acrossParts, startShape, List.cons_append, List.cons_append,
              List.cons.injEq] at shape
            have inside := continued start (by rw [← shape.2]; simp)
            rw [starts] at inside
            contradiction

section Narrowing

variable {middle : Bytes} {before after : List Bytes}
  (fewer : ∀ point, wide point = false → blank point = false)
  (nonempty : middle ≠ []) (ends : Trimmed wide middle)
  (leading : ∀ char ∈ before, BlankChar wide char)
  (trailing : ∀ char ∈ after, BlankChar wide char)

include fewer nonempty ends leading trailing

/-- From the front, fewer blanks are trimmed up to the text at the latest. -/
theorem trimFront_keeps : ∃ left : List Bytes, (∀ char ∈ left, BlankChar wide char) ∧
    trimFront blank (before.flatten ++ (middle ++ after.flatten)) =
      left.flatten ++ (middle ++ after.flatten) := by
  induction before with
  | nil =>
      refine ⟨[], by simp, trimFront_of_visible ?_⟩
      intro point rest read
      obtain ⟨inner, inside⟩ := first?_before_padding nonempty trailing read
      exact fewer point (ends.front point inner inside)
  | cons char more inductionHypothesis =>
      rw [List.forall_mem_cons] at leading
      obtain ⟨point, decoded, -⟩ := leading.1
      by_cases holds : blank point = true
      · obtain ⟨left, blanks, trimmed⟩ := inductionHypothesis leading.2
        refine ⟨left, blanks, ?_⟩
        rw [List.flatten_cons, List.append_assoc, trimFront_char ⟨point, decoded, holds⟩, trimmed]
      · refine ⟨char :: more, List.forall_mem_cons.mpr leading, trimFront_of_visible ?_⟩
        intro other rest read
        rw [List.flatten_cons, List.append_assoc, first?_append decoded] at read
        cases read
        simpa using holds

/-- From the back, fewer blanks are trimmed up to the text at the latest. -/
theorem trimBack_keeps : ∃ left : List Bytes,
    trimBack blank (before.flatten ++ (middle ++ after.flatten)).reverse =
      (before.flatten ++ (middle ++ left.flatten)).reverse := by
  induction after using List.reverseRecOn with
  | nil =>
      refine ⟨[], trimBack_of_visible ?_⟩
      intro point rest read
      rw [List.flatten_nil, List.append_nil] at read
      obtain ⟨inner, inside⟩ := last?_behind_padding nonempty leading read
      exact fewer point (ends.back point inner inside)
  | append_singleton more char inductionHypothesis =>
      rw [List.forall_mem_append, List.forall_mem_singleton] at trailing
      obtain ⟨point, decoded, -⟩ := trailing.2
      have last : (before.flatten ++ (middle ++ (more ++ [char]).flatten)).reverse =
          char.reverse ++ (before.flatten ++ (middle ++ more.flatten)).reverse := by
        simp
      by_cases holds : blank point = true
      · rw [last, trimBack_char ⟨point, decoded, holds⟩]
        exact inductionHypothesis trailing.1
      · refine ⟨more ++ [char], trimBack_of_visible ?_⟩
        intro other rest read
        rw [last, last?_append decoded] at read
        cases read
        simpa using holds

end Narrowing

/-- A text trimmed of more kinds of blanks lies within the text trimmed of fewer. -/
theorem trim_infix (fewer : ∀ point, wide point = false → blank point = false) (text : Bytes) :
    trim wide text <:+: trim blank text := by
  obtain ⟨before, after, leading, trailing, whole, ends⟩ := trim_parts wide text
  by_cases empty : trim wide text = []
  · rw [empty]
    exact List.nil_infix
  · obtain ⟨start, blanks, front⟩ := trimFront_keeps fewer empty ends leading trailing
    obtain ⟨finish, back⟩ := trimBack_keeps fewer empty ends blanks trailing
    refine ⟨start.flatten, finish.flatten, ?_⟩
    conv => rhs; rw [whole, trim]
    rw [front, back, List.reverse_reverse, List.append_assoc]

end ImportSplice
