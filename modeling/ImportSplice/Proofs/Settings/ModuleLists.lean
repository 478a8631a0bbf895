import ImportSplice.Proofs.Source.MarkerLines
import ImportSplice.Settings.Environment

/-!
Lists of modules in one text.  Splitting turns a comma between two texts into the end of one
list and the start of the next.  What it finds are the entries that a list can hold: texts
that are not empty, have no comma in them and no blank at their ends.  Such entries are found
again when they are joined by commas, so a list that was split once stays as it is.
-/

namespace ImportSplice

open Utf8

variable {name text : Bytes} {names : List Bytes}

/-- Texts that can stand in a list of modules. -/
structure IsEntry (name : Bytes) : Prop where
  nonempty : name ≠ []
  undivided : Bytes.comma ∉ name
  visible : ∀ point, isBlank point = true → ¬ encode point <+: name ∧ ¬ encode point <:+ name

theorem isSourceBlank_of_isBlank {point : Nat} (blank : isBlank point = true) :
    isSourceBlank point = true := by
  simp [isSourceBlank, blank]

theorem trimmed_iff_visible : Trimmed isBlank text ↔
    ∀ point, isBlank point = true → ¬ encode point <+: text ∧ ¬ encode point <:+ text := by
  constructor
  · intro ends point blank
    have scalar := isScalar_of_isSourceBlank (isSourceBlank_of_isBlank blank)
    exact ends.no_blank_ends ⟨point, scalar?_encode scalar, blank⟩
  · intro visible
    constructor
    · intro point rest read
      obtain ⟨front, decoded, parts⟩ := first?_parts read
      by_contra blank
      have clear := visible point (by simpa using blank)
      rw [← (eq_encode_of_scalar? decoded).2] at clear
      exact clear.1 ⟨rest, parts.symm⟩
    · intro point rest read
      obtain ⟨back, decoded, parts⟩ := last?_parts read
      by_contra blank
      have clear := visible point (by simpa using blank)
      rw [← (eq_encode_of_scalar? decoded).2] at clear
      refine clear.2 ⟨rest.reverse, ?_⟩
      rw [← List.reverse_inj, parts, List.reverse_append, List.reverse_reverse]

theorem trim_eq_self_iff {blank : Nat → Bool} : trim blank text = text ↔ Trimmed blank text := by
  obtain ⟨-, -, -, -, -, ends⟩ := trim_parts blank text
  constructor
  · intro same
    rwa [same] at ends
  · intro ends
    have nothing : ∀ char ∈ ([] : List Bytes), BlankChar blank char := by simp
    simpa using trim_between nothing nothing ends

theorem isEntry_iff : IsEntry name ↔
    name ≠ [] ∧ Bytes.comma ∉ name ∧ trim isBlank name = name := by
  rw [trim_eq_self_iff, trimmed_iff_visible]
  exact ⟨fun entry => ⟨entry.nonempty, entry.undivided, entry.visible⟩,
    fun ⟨nonempty, undivided, visible⟩ => ⟨nonempty, undivided, visible⟩⟩

theorem splitModules_append (first second : Bytes) :
    splitModules (first ++ Bytes.comma :: second) = splitModules first ++ splitModules second := by
  rw [splitModules, Bytes.splitOn, List.splitOnP_append_cons _ _ (by decide), List.map_append,
    List.filter_append]
  rfl

theorem splitModules_undivided (undivided : Bytes.comma ∉ text) :
    splitModules text = if trim isBlank text = [] then [] else [trim isBlank text] := by
  have whole : Bytes.splitOn Bytes.comma text = [text] := List.splitOn_eq_singleton undivided
  rw [splitModules, whole, List.map_singleton, List.filter_cons, List.filter_nil]
  simp only [Bool.not_eq_true', List.isEmpty_eq_false_iff, ite_not]

theorem splitModules_nil : splitModules [] = [] := by
  have empty : trim isBlank [] = [] := trim_eq_nil_iff.mpr ⟨[], by simp, rfl⟩
  rw [splitModules_undivided (by simp), if_pos empty]

theorem splitModules_entry (entry : IsEntry name) : splitModules name = [name] := by
  obtain ⟨nonempty, undivided, same⟩ := isEntry_iff.mp entry
  rw [splitModules_undivided undivided, same, if_neg nonempty]

theorem splitModules_joinWith (entries : ∀ name ∈ names, IsEntry name) :
    splitModules (Bytes.joinWith [Bytes.comma] names) = names := by
  induction names with
  | nil => exact splitModules_nil
  | cons name rest inductionHypothesis =>
      rw [List.forall_mem_cons] at entries
      cases rest with
      | nil => rw [Bytes.joinWith_singleton, splitModules_entry entries.1]
      | cons next more =>
          rw [Bytes.joinWith_cons_cons, splitModules_append, splitModules_entry entries.1,
            inductionHypothesis entries.2]
          rfl

theorem isEntry_of_mem (member : name ∈ splitModules text) : IsEntry name := by
  -- A text with a comma falls into two shorter ones.
  induction size : text.length using Nat.strongRecOn generalizing text with
  | ind count inductionHypothesis =>
      by_cases divided : Bytes.comma ∈ text
      · obtain ⟨first, second, whole⟩ := List.append_of_mem divided
        rw [whole, splitModules_append, List.mem_append] at member
        rw [whole, List.length_append, List.length_cons] at size
        rcases member with earlier | later
        · exact inductionHypothesis first.length (by omega) earlier rfl
        · exact inductionHypothesis second.length (by omega) later rfl
      · obtain ⟨before, after, -, -, whole, ends⟩ := trim_parts isBlank text
        rw [splitModules_undivided divided] at member
        split at member
        · contradiction
        · rename_i nonempty
          rw [List.mem_singleton] at member
          rw [← member] at ends nonempty whole
          refine ⟨nonempty, ?_, trimmed_iff_visible.mp ends⟩
          intro inside
          exact divided (by rw [whole]; simp [inside])

/-- A comma between two texts divides their lists.  What is found is a list of entries, and
every list of entries is found again when it is joined, so splitting for a second time changes
nothing. -/
theorem splitModules_divides_and_restores :
    (∀ first second, splitModules (first ++ [Bytes.comma] ++ second) =
      splitModules first ++ splitModules second) ∧
    (∀ text, ∀ name ∈ splitModules text, IsEntry name) ∧
    (∀ names, (∀ name ∈ names, IsEntry name) →
      splitModules (Bytes.joinWith [Bytes.comma] names) = names) ∧
    ∀ text, splitModules (Bytes.joinWith [Bytes.comma] (splitModules text)) =
      splitModules text := by
  refine ⟨?_, ?_, ?_, ?_⟩
  · intro first second
    rw [List.append_assoc, List.singleton_append, splitModules_append]
  · intro text name member
    exact isEntry_of_mem member
  · intro names entries
    exact splitModules_joinWith entries
  · intro text
    exact splitModules_joinWith fun name member => isEntry_of_mem member

/-- The bytes of a blank are none when they stand alone, a blank inside a name stays, and blank
entries are dropped. -/
theorem splitModules_restores_stray_bytes :
    let names : List Bytes := [[0x85], ascii "A B", [0xE2, 0x80]]
    let text : Bytes := [0x20, 0x85, 0x2C, 0xC2, 0x85, 0x2C] ++ ascii "A B\t,," ++ [0xE2, 0x80]
    splitModules text = names ∧ (∀ name ∈ names, IsEntry name) ∧
      splitModules (Bytes.joinWith [Bytes.comma] names) = names := by
  intro names text
  have entries : ∀ name ∈ names, IsEntry name := by
    simp only [isEntry_iff]
    decide +kernel
  exact ⟨by decide +kernel, entries, splitModules_divides_and_restores.2.2.1 names entries⟩

end ImportSplice
