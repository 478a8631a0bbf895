import ImportSplice.Proofs.Source.LineCuts
import ImportSplice.Proofs.Text.BlankSearch
import ImportSplice.Settings.Config

/-!
Module names that a configuration may hold, and the block made of them.  An
accepted name is not empty and holds no newline, so each import stands on a line
of its own and the block is a blank line and the imports in their order.
-/

namespace ImportSplice

namespace Config

theorem checkLength_ok_iff {field value : Bytes} {limit : Nat} :
    checkLength field value limit = .ok () ↔ value.length ≤ limit := by
  unfold checkLength
  split
  · rename_i long
    simp only [reduceCtorEq, false_iff]
    omega
  · rename_i short
    simp only [true_iff]
    omega

theorem checkModule_ok_iff (index : Nat) {name : Bytes} :
    checkModule index name = .ok () ↔
      name ≠ [] ∧ hasBlank name = false ∧ name.length ≤ maxModuleLength := by
  unfold checkModule
  dsimp only
  split
  · rename_i empty
    simp [List.isEmpty_iff.mp empty]
  · rename_i nonempty
    have named : name ≠ [] := fun empty => nonempty (List.isEmpty_iff.mpr empty)
    split
    · rename_i blank
      simp [blank]
    · rename_i clean
      simp [checkLength_ok_iff, named, clean]

theorem checkModules_ok_iff {index : Nat} {names : List Bytes} :
    checkModules index names = .ok () ↔ ∀ name ∈ names,
      name ≠ [] ∧ hasBlank name = false ∧ name.length ≤ maxModuleLength := by
  induction names generalizing index with
  | nil => simp [checkModules]
  | cons name rest inductionHypothesis =>
      rw [checkModules, List.forall_mem_cons, ← checkModule_ok_iff index]
      split
      · rename_i passed
        rw [inductionHypothesis, passed]
        simp
      · rename_i fault refused
        simp [refused]

theorem validate_ok_iff {config : Config} :
    config.validate = .ok () ↔ checkMarker config.marker = .ok () ∧
      config.imports.length ≤ maxModules ∧ checkModules 0 config.imports = .ok () := by
  unfold validate
  split
  · rename_i fault refused
    simp [refused]
  · rename_i passed
    split
    · rename_i many
      simp only [reduceCtorEq, false_iff]
      omega
    · rename_i few
      have bounded : config.imports.length ≤ maxModules := by omega
      simp [passed, bounded]

theorem unbroken_of_validate {config : Config} (valid : config.validate = .ok ()) :
    ∀ name ∈ config.imports, Bytes.newline ∉ name := by
  intro name member
  obtain ⟨-, -, checked⟩ := validate_ok_iff.mp valid
  obtain ⟨-, clean, -⟩ := checkModules_ok_iff.mp checked name member
  exact newline_not_mem_of_hasBlank clean

end Config

theorem importLine_eq_line {name : Bytes} (unbroken : Bytes.newline ∉ name) :
    ∃ body, Bytes.newline ∉ body ∧ importLine name = body ++ [Bytes.newline] := by
  refine ⟨ascii "import qualified " ++ name, ?_, rfl⟩
  simp only [List.mem_append, not_or]
  exact ⟨by decide, unbroken⟩

theorem importLine_ne_blank (name : Bytes) : importLine name ≠ [Bytes.newline] := by
  intro same
  have longer := congrArg List.length same
  simp [importLine, ascii] at longer

theorem lineCut_imports {modules : List Bytes}
    (unbroken : ∀ name ∈ modules, Bytes.newline ∉ name) : LineCut (modules.map importLine) := by
  induction modules with
  | nil => exact .empty
  | cons name rest inductionHypothesis =>
      obtain ⟨body, whole, shape⟩ := importLine_eq_line (unbroken name (by simp))
      rw [List.map_cons, shape]
      exact .terminated body _ whole (inductionHypothesis fun other member =>
        unbroken other (List.mem_cons_of_mem _ member))

/-- A blank line, then one line for each module. -/
theorem lines_importBlock {modules : List Bytes} (nonempty : modules ≠ [])
    (unbroken : ∀ name ∈ modules, Bytes.newline ∉ name) :
    lines (importBlock modules) = [Bytes.newline] :: modules.map importLine := by
  have cut : LineCut ([Bytes.newline] :: modules.map importLine) :=
    .terminated [] _ (by simp) (lineCut_imports unbroken)
  refine lines_eq_iff.mpr ⟨cut, ?_⟩
  cases modules with
  | nil => contradiction
  | cons name rest => rfl

theorem terminated_imports (modules : List Bytes) : Terminated (modules.flatMap importLine) := by
  induction modules with
  | nil => exact .inl rfl
  | cons name rest inductionHypothesis => exact (terminated_line _).append inductionHypothesis

theorem terminated_importBlock (modules : List Bytes) : Terminated (importBlock modules) := by
  cases modules with
  | nil => exact .inl rfl
  | cons name rest => exact (terminated_line []).append (terminated_imports (name :: rest))

end ImportSplice
