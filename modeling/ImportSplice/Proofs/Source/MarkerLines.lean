import ImportSplice.Proofs.Text.Encoding
import ImportSplice.Proofs.Text.Trimming
import ImportSplice.Source.Injector

/-!
Which lines are marker lines.  Trimming finds a text again between any two paddings, so a
line is a marker line if it is the marker between two texts of blank characters, and a
marker that is given with a padding is the marker without it.
-/

namespace ImportSplice

open Utf8

section Padded

variable {blank : Nat → Bool} {before after : List Bytes}
  (leading : ∀ char ∈ before, BlankChar blank char)
  (trailing : ∀ char ∈ after, BlankChar blank char)

include trailing in
theorem trimBack_padding (text : Bytes) :
    trimBack blank (text ++ after.flatten).reverse = trimBack blank text.reverse := by
  induction after using List.reverseRecOn with
  | nil => rw [List.flatten_nil, List.append_nil]
  | append_singleton more char inductionHypothesis =>
      rw [List.forall_mem_append, List.forall_mem_singleton] at trailing
      have last : (text ++ (more ++ [char]).flatten).reverse =
          char.reverse ++ (text ++ more.flatten).reverse := by simp
      rw [last, trimBack_char trailing.2, inductionHypothesis trailing.1]

include leading trailing

theorem trim_between {text : Bytes} (ends : Trimmed blank text) :
    trim blank (before.flatten ++ (text ++ after.flatten)) = text := by
  by_cases empty : text = []
  · subst empty
    rw [List.nil_append, ← List.flatten_append, trim_eq_nil_iff]
    exact ⟨before ++ after, List.forall_mem_append.mpr ⟨leading, trailing⟩, rfl⟩
  · have front : trimFront blank (text ++ after.flatten) = text ++ after.flatten := by
      apply trimFront_of_visible
      intro point rest read
      obtain ⟨inner, inside⟩ := first?_before_padding empty trailing read
      exact ends.front point inner inside
    rw [trim, trimFront_padding leading, front, trimBack_padding trailing,
      trimBack_of_visible ends.back, List.reverse_reverse]

/-- A padding around a text is trimmed together with the padding that the text has. -/
theorem trim_padded (text : Bytes) :
    trim blank (before.flatten ++ (text ++ after.flatten)) = trim blank text := by
  obtain ⟨front, back, leads, trails, whole, ends⟩ := trim_parts blank text
  have regrouped : before.flatten ++ (text ++ after.flatten) =
      (before ++ front).flatten ++ (trim blank text ++ (back ++ after).flatten) := by
    conv => lhs; rw [whole]
    simp only [List.flatten_append, List.append_assoc]
  rw [regrouped]
  exact trim_between (List.forall_mem_append.mpr ⟨leading, leads⟩)
    (List.forall_mem_append.mpr ⟨trails, trailing⟩) ends

end Padded

theorem Trimmed.no_blank_ends {blank : Nat → Bool} {text char : Bytes} (ends : Trimmed blank text)
    (isBlank : BlankChar blank char) : ¬ char <+: text ∧ ¬ char <:+ text := by
  obtain ⟨point, decoded, holds⟩ := isBlank
  constructor
  · intro ⟨rest, whole⟩
    have visible := ends.front point rest (by rw [← whole, first?_append decoded])
    simp [holds] at visible
  · intro ⟨rest, whole⟩
    have visible := ends.back point rest.reverse
      (by rw [← whole, List.reverse_append, last?_append decoded])
    simp [holds] at visible

/-! ### Blanks by their code points -/

theorem isScalar_of_isSourceBlank {point : Nat} (blank : isSourceBlank point = true) :
    IsScalar point := by
  simp only [isSourceBlank, isBlank, Bool.or_eq_true, Bool.and_eq_true, decide_eq_true_eq,
    beq_iff_eq] at blank
  exact .inl (by omega)

theorem blankChar_encode {point : Nat} (blank : isSourceBlank point = true) :
    BlankChar isSourceBlank (encode point) :=
  ⟨point, scalar?_encode (isScalar_of_isSourceBlank blank), blank⟩

theorem blankChars_encode {points : List Nat} (blank : ∀ point ∈ points, isSourceBlank point = true) :
    ∀ char ∈ points.map encode, BlankChar isSourceBlank char := by
  intro char member
  obtain ⟨point, listed, rfl⟩ := List.mem_map.mp member
  exact blankChar_encode (blank point listed)

theorem exists_points {chars : List Bytes} (blank : ∀ char ∈ chars, BlankChar isSourceBlank char) :
    ∃ points : List Nat, (∀ point ∈ points, isSourceBlank point = true) ∧
      chars.flatten = points.flatMap encode := by
  induction chars with
  | nil => exact ⟨[], by simp, rfl⟩
  | cons char rest inductionHypothesis =>
      rw [List.forall_mem_cons] at blank
      obtain ⟨point, decoded, holds⟩ := blank.1
      obtain ⟨points, blanks, same⟩ := inductionHypothesis blank.2
      refine ⟨point :: points, List.forall_mem_cons.mpr ⟨holds, blanks⟩, ?_⟩
      rw [List.flatten_cons, List.flatMap_cons, same, (eq_encode_of_scalar? decoded).2]

namespace Injector

/-- Whatever is chosen, a marker is kept without its padding. -/
theorem trimmed_choices (choices : List Choice) {injector : Injector}
    (ends : Trimmed isSourceBlank injector.marker) :
    Trimmed isSourceBlank (choices.foldl choose injector).marker := by
  induction choices generalizing injector with
  | nil => exact ends
  | cons choice rest inductionHypothesis =>
      apply inductionHypothesis
      cases choice with
      | marker line =>
          obtain ⟨-, -, -, -, -, trimmed⟩ := trim_parts isSourceBlank line
          exact trimmed
      | block text => exact ends
      | imports modules => exact ends

theorem trimmed_marker {choices : List Choice} {injector : Injector}
    (made : create choices = .ok injector) : Trimmed isSourceBlank injector.marker := by
  have default : trim isSourceBlank defaultMarker = defaultMarker := by decide +kernel
  obtain ⟨-, -, -, -, -, ends⟩ := trim_parts isSourceBlank defaultMarker
  rw [default] at ends
  rw [create] at made
  split at made
  · contradiction
  · cases made
    exact trimmed_choices choices ends

theorem create_padded (earlier later : List Choice) (marker : Bytes) {before after : List Bytes}
    (leading : ∀ char ∈ before, BlankChar isSourceBlank char)
    (trailing : ∀ char ∈ after, BlankChar isSourceBlank char) :
    create (earlier ++ .marker (before.flatten ++ (marker ++ after.flatten)) :: later) =
      create (earlier ++ .marker marker :: later) := by
  simp only [create, List.foldl_append, List.foldl_cons, choose,
    trim_padded leading trailing]

/-- A line is a marker line exactly if it is the marker between two texts of blank characters.
The marker itself has no blank at its ends, and a padding around a marker that is chosen makes
no difference to the injector. -/
theorem isMarker_iff_padded {choices : List Choice} {injector : Injector}
    (made : create choices = .ok injector) :
    (∀ line, injector.isMarker line = true ↔
      ∃ before after : List Nat, (∀ point ∈ before, isSourceBlank point = true) ∧
        (∀ point ∈ after, isSourceBlank point = true) ∧
        line = before.flatMap encode ++ injector.marker ++ after.flatMap encode) ∧
    (∀ point, isSourceBlank point = true →
      ¬ encode point <+: injector.marker ∧ ¬ encode point <:+ injector.marker) ∧
    ∀ (earlier later : List Choice) (marker : Bytes) (before after : List Nat),
      (∀ point ∈ before, isSourceBlank point = true) →
      (∀ point ∈ after, isSourceBlank point = true) →
      create (earlier ++
          .marker (before.flatMap encode ++ marker ++ after.flatMap encode) :: later) =
        create (earlier ++ .marker marker :: later) := by
  have ends := trimmed_marker made
  refine ⟨?_, ?_, ?_⟩
  · intro line
    rw [isMarker, beq_iff_eq]
    constructor
    · intro same
      obtain ⟨front, back, leading, trailing, whole, -⟩ := trim_parts isSourceBlank line
      obtain ⟨before, leads, frontEq⟩ := exists_points leading
      obtain ⟨after, trails, backEq⟩ := exists_points trailing
      refine ⟨before, after, leads, trails, ?_⟩
      rw [← frontEq, ← backEq, ← same, List.append_assoc, ← whole]
    · intro ⟨before, after, leads, trails, whole⟩
      have between := trim_between (blankChars_encode leads) (blankChars_encode trails) ends
      rwa [← List.flatMap_def, ← List.flatMap_def, ← List.append_assoc, ← whole] at between
  · intro point blank
    exact ends.no_blank_ends (blankChar_encode blank)
  · intro earlier later marker before after leads trails
    have same := create_padded earlier later marker (blankChars_encode leads)
      (blankChars_encode trails)
    rwa [← List.flatMap_def, ← List.flatMap_def, ← List.append_assoc] at same

/-- The marker is chosen between two kinds of blanks and found between others; a byte of a
blank that stands alone is none. -/
theorem isMarker_iff_padded_by_separators :
    let padded : Bytes := [0x1C] ++ ascii "import A" ++ [0xC2, 0x85]
    let injector : Injector := { marker := ascii "import A" }
    create [.marker padded] = .ok injector ∧
      injector.isMarker (encode 0x2003 ++ ascii "import A" ++ [13, 10]) = true ∧
      injector.isMarker ([0x85] ++ ascii "import A") = false ∧
      (¬ encode 0x1C <+: injector.marker ∧ ¬ encode 0x1C <:+ injector.marker) ∧
      create [.marker padded] = create [.marker (ascii "import A")] := by
  intro padded injector
  have made : create [.marker padded] = .ok injector := by decide +kernel
  obtain ⟨found, visible, unpadded⟩ := isMarker_iff_padded made
  refine ⟨made, ?_, by decide +kernel, visible 0x1C (by decide), ?_⟩
  · exact (found _).mpr ⟨[0x2003], [13, 10], by decide, by decide, by decide⟩
  · exact unpadded [] [] (ascii "import A") [0x1C] [0x85] (by decide) (by decide)

end Injector

end ImportSplice
