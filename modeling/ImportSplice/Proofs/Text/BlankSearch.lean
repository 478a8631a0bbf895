import ImportSplice.Proofs.Text.Trimming

/-!
No blank hides from the search for blanks.  A character starts with a byte that no other
character goes on with, so reading from the front comes upon every encoding that a text
holds, also between bytes that belong to no character.  So a text in which no blank is
found has none at its ends, and no newline anywhere.
-/

namespace ImportSplice

namespace Utf8

theorem mem_piecesOnto {piece : Piece} {seen : List Piece} (member : piece ∈ seen) (text : Bytes) :
    piece ∈ piecesOnto seen text := by
  fun_induction piecesOnto seen text with
  | case1 seen => exact List.mem_reverse.mpr member
  | case2 seen byte tail point rest read shorter inductionHypothesis =>
      exact inductionHypothesis (List.mem_cons_of_mem _ member)
  | case3 seen byte tail read inductionHypothesis =>
      exact inductionHypothesis (List.mem_cons_of_mem _ member)

theorem char_mem_piecesOnto {text before char after : Bytes} {point : Nat} (seen : List Piece)
    (decoded : scalar? char = some point) (whole : text = before ++ (char ++ after)) :
    Piece.char point ∈ piecesOnto seen text := by
  fun_induction piecesOnto seen text generalizing before with
  | case1 seen =>
      obtain ⟨lead, trail, rfl, -⟩ := scalar?_shape decoded
      simp at whole
  | case2 seen byte tail other rest read shorter inductionHypothesis =>
      by_cases started : before = []
      · rw [whole, started, List.nil_append, first?_append decoded] at read
        cases read
        exact mem_piecesOnto List.mem_cons_self _
      · obtain ⟨front, readChar, parts⟩ := first?_parts read
        obtain ⟨between, -, later⟩ :=
          scalar?_before_char readChar decoded started (whole.symm.trans parts)
        exact inductionHypothesis later
  | case3 seen byte tail read inductionHypothesis =>
      cases before with
      | nil =>
          rw [whole, List.nil_append, first?_append decoded] at read
          contradiction
      | cons head others => exact inductionHypothesis (List.cons.inj whole).2

end Utf8

variable {text : Bytes}

theorem not_infix_of_hasBlank {char : Bytes} (clean : hasBlank text = false)
    (blank : BlankChar isBlank char) : ¬ char <:+: text := by
  intro ⟨before, after, whole⟩
  obtain ⟨point, decoded, holds⟩ := blank
  rw [List.append_assoc] at whole
  have found := Utf8.char_mem_piecesOnto [] decoded whole.symm
  rw [hasBlank, List.any_eq_false] at clean
  exact clean _ found holds

theorem byte_not_mem_of_hasBlank {byte : UInt8} (clean : hasBlank text = false)
    (small : byte < 0x80) (blank : isBlank byte.toNat = true) : byte ∉ text := by
  intro member
  have alone : BlankChar isBlank [byte] := ⟨byte.toNat, by simp [Utf8.scalar?, small], blank⟩
  obtain ⟨before, after, whole⟩ := List.append_of_mem member
  exact not_infix_of_hasBlank clean alone ⟨before, after, by simp [whole]⟩

theorem newline_not_mem_of_hasBlank (clean : hasBlank text = false) : Bytes.newline ∉ text :=
  byte_not_mem_of_hasBlank clean (by decide) (by decide)

theorem trimmed_of_hasBlank (clean : hasBlank text = false) : Trimmed isBlank text where
  front := by
    intro point rest read
    obtain ⟨front, decoded, parts⟩ := Utf8.first?_parts read
    by_contra visible
    have starts : front <+: text := ⟨rest, parts.symm⟩
    exact not_infix_of_hasBlank clean ⟨point, decoded, by simpa using visible⟩ starts.isInfix
  back := by
    intro point rest read
    obtain ⟨back, decoded, parts⟩ := Utf8.last?_parts read
    by_contra visible
    have ends : back <:+ text := ⟨rest.reverse, by
      rw [← List.reverse_inj, parts, List.reverse_append, List.reverse_reverse]⟩
    exact not_infix_of_hasBlank clean ⟨point, decoded, by simpa using visible⟩ ends.isInfix

end ImportSplice
