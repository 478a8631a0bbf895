import ImportSplice.Proofs.Files.StagedPaths

/-!
Clean paths below a directory.  Cleaning goes through the names of a path from left to
right and keeps those that lead somewhere, so an ordinary name at the end of a path stays
at the end, behind the clean spelling of what stands before it.
-/

namespace ImportSplice

namespace Bytes

theorem not_mem_of_mem_splitOn {separator : UInt8} {text piece : Bytes}
    (member : piece ∈ splitOn separator text) : separator ∉ piece := by
  induction text generalizing piece with
  | nil =>
      simp only [splitOn, List.splitOnP_nil, List.mem_singleton] at member
      simp [member]
  | cons byte rest inductionHypothesis =>
      rw [splitOn, List.splitOnP_cons_eq_if_modifyHead] at member
      split at member
      · rcases List.mem_cons.mp member with empty | later
        · simp [empty]
        · exact inductionHypothesis later
      · rename_i other
        obtain ⟨first, more, pieces⟩ :=
          List.exists_cons_of_ne_nil (List.splitOnP_ne_nil (· == separator) rest)
        rw [splitOn, pieces] at inductionHypothesis
        rw [pieces, List.modifyHead_cons, List.mem_cons] at member
        rcases member with rfl | later
        · rw [List.mem_cons, not_or]
          exact ⟨fun same => other (beq_iff_eq.mpr same.symm), inductionHypothesis (by simp)⟩
        · exact inductionHypothesis (List.mem_cons_of_mem _ later)

theorem joinWith_concat (separator : UInt8) {pieces : List Bytes} (nonempty : pieces ≠ [])
    (last : Bytes) :
    joinWith [separator] (pieces ++ [last]) = joinWith [separator] pieces ++ separator :: last := by
  induction pieces with
  | nil => contradiction
  | cons piece rest inductionHypothesis =>
      cases rest with
      | nil => simp [joinWith_cons_cons]
      | cons next more =>
          rw [List.cons_append, List.cons_append, joinWith_cons_cons, ← List.cons_append,
            inductionHypothesis (by simp), joinWith_cons_cons, List.append_assoc]
          rfl

end Bytes

namespace Path

/-- A name that cleaning can leave in a path. -/
structure Kept (name : Bytes) : Prop where
  nonempty : name ≠ []
  notCurrent : name ≠ current
  unbroken : Bytes.slash ∉ name

variable {directory name : Bytes} {names : List Bytes}

theorem Kept.ne_slash (kept : Kept name) : name ≠ [Bytes.slash] := by
  intro same
  exact kept.unbroken (by simp [same])

theorem slash_cons_ne_current (text : Bytes) : Bytes.slash :: text ≠ current := by
  intro same
  exact absurd (List.cons.inj same).1 (by decide)

theorem cleanStep_kept {absolute : Bool} (unbroken : Bytes.slash ∉ name)
    (kept : ∀ other ∈ names, Kept other) :
    ∀ other ∈ cleanStep absolute names name, Kept other := by
  have parental : Kept parent := ⟨by decide, by decide, by decide⟩
  unfold cleanStep
  split
  · exact kept
  · rename_i visible
    split
    · split
      · split
        · simp
        · simpa using parental
      · rw [List.forall_mem_cons] at kept
        split
        · simpa using ⟨parental, kept⟩
        · exact kept.2
    · rw [List.forall_mem_cons]
      simp only [Bool.or_eq_true, List.isEmpty_iff, beq_iff_eq, not_or] at visible
      exact ⟨⟨visible.1, visible.2, unbroken⟩, kept⟩

theorem foldl_cleanStep_kept {absolute : Bool} {pieces : List Bytes}
    (unbroken : ∀ piece ∈ pieces, Bytes.slash ∉ piece) (kept : ∀ other ∈ names, Kept other) :
    ∀ other ∈ pieces.foldl (cleanStep absolute) names, Kept other := by
  induction pieces generalizing names with
  | nil => exact kept
  | cons piece rest inductionHypothesis =>
      rw [List.forall_mem_cons] at unbroken
      exact inductionHypothesis unbroken.2 (cleanStep_kept unbroken.1 kept)

/-- The names that cleaning leaves of a path. -/
def keptNames (path : Bytes) : List Bytes :=
  ((FileSystem.names path).foldl (cleanStep (isAbsolute path)) []).reverse

theorem kept_of_mem_keptNames (member : name ∈ keptNames directory) : Kept name := by
  rw [keptNames, List.mem_reverse] at member
  exact foldl_cleanStep_kept (fun _ => Bytes.not_mem_of_mem_splitOn) (by simp) name member

/-- A cleaned path with these names. -/
def spell (absolute : Bool) (names : List Bytes) : Bytes :=
  let text := Bytes.joinWith [Bytes.slash] names
  if absolute then Bytes.slash :: text else if text.isEmpty then current else text

theorem clean_eq_spell (path : Bytes) : clean path = spell (isAbsolute path) (keptNames path) := rfl

/-- A name in a directory that is spelled cleanly. -/
def below (directory name : Bytes) : Bytes :=
  if directory = [Bytes.slash] then Bytes.slash :: name
  else if directory = current then name
  else directory ++ Bytes.slash :: name

theorem joinWith_kept (nonempty : names ≠ []) (kept : ∀ name ∈ names, Kept name) :
    Bytes.joinWith [Bytes.slash] names ≠ [] ∧
      Bytes.joinWith [Bytes.slash] names ≠ [Bytes.slash] ∧
      Bytes.joinWith [Bytes.slash] names ≠ current := by
  cases names with
  | nil => contradiction
  | cons first rest =>
      rw [List.forall_mem_cons] at kept
      cases rest with
      | nil =>
          rw [Bytes.joinWith_singleton]
          exact ⟨kept.1.nonempty, kept.1.ne_slash, kept.1.notCurrent⟩
      | cons next more =>
          have size := List.length_pos_iff.mpr kept.1.nonempty
          have longer : 1 < (Bytes.joinWith [Bytes.slash] (first :: next :: more)).length := by
            rw [Bytes.joinWith_cons_cons, List.length_append, List.length_cons]
            omega
          refine ⟨?_, ?_, ?_⟩
          all_goals
            intro same
            rw [same] at longer
            simp [current, ascii] at longer

theorem spell_concat (absolute : Bool) (kept : ∀ name ∈ names, Kept name) (filled : name ≠ []) :
    spell absolute (names ++ [name]) = below (spell absolute names) name := by
  by_cases empty : names = []
  · subst empty
    cases absolute <;> simp [spell, below, Bytes.joinWith, filled, current, ascii, Bytes.slash]
  · obtain ⟨visible, notRoot, notCurrent⟩ := joinWith_kept empty kept
    cases absolute <;>
      simp [spell, below, Bytes.joinWith_concat _ empty, visible, notRoot, notCurrent,
        slash_cons_ne_current]

theorem below_below (kept : Kept name) (last : Bytes) :
    below (below directory name) last = below directory name ++ Bytes.slash :: last := by
  have size := List.length_pos_iff.mpr kept.nonempty
  have longer : ∀ short : Bytes, short.length = 1 → directory ++ Bytes.slash :: name ≠ short := by
    intro short single same
    rw [← same, List.length_append, List.length_cons] at single
    omega
  have inner : below directory name ≠ [Bytes.slash] ∧ below directory name ≠ current := by
    unfold below
    split
    · exact ⟨by simpa using kept.nonempty, slash_cons_ne_current name⟩
    · split
      · exact ⟨kept.ne_slash, kept.notCurrent⟩
      · exact ⟨longer _ rfl, longer _ rfl⟩
  rw [below, if_neg inner.1, if_neg inner.2]

/-- A name that cleaning keeps stays the last one. -/
theorem clean_append_name (filled : directory ≠ []) (kept : Kept name) (ordinary : name ≠ parent) :
    clean (directory ++ Bytes.slash :: name) = below (clean directory) name := by
  have rooted : isAbsolute (directory ++ Bytes.slash :: name) = isAbsolute directory := by
    cases directory with
    | nil => contradiction
    | cons byte rest => rfl
  have stays : ∀ absolute names, cleanStep absolute names name = name :: names := by
    intro absolute names
    simp [cleanStep, kept.nonempty, kept.notCurrent, ordinary]
  have names : keptNames (directory ++ Bytes.slash :: name) = keptNames directory ++ [name] := by
    have parted : FileSystem.names (directory ++ [Bytes.slash] ++ name) =
        FileSystem.names directory ++ [name] := FileSystem.names_append_slash kept.unbroken
    rw [List.append_assoc, List.singleton_append] at parted
    rw [keptNames, rooted, parted, List.foldl_append, List.foldl_cons, List.foldl_nil, stays,
      List.reverse_cons]
    rfl
  rw [clean_eq_spell, names, rooted, clean_eq_spell,
    spell_concat _ (fun _ => kept_of_mem_keptNames) kept.nonempty]

end Path

end ImportSplice
