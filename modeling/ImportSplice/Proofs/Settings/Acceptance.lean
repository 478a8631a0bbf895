import ImportSplice.Proofs.Settings.ModuleNames
import ImportSplice.Proofs.Success
import ImportSplice.Proofs.Text.Trimming
import ImportSplice.Settings.Lookup

/-!
Accepted configurations.  A configuration is loaded or resolved only if it passes its
check, and one that passes makes an injector: the marker that is left when all source
blanks are trimmed lies within the one that was checked.  Only a marker of nothing but
source blanks, which the check keeps, is trimmed away and refused.
-/

namespace ImportSplice

namespace Config

theorem checkMarker_ok_iff {padded : Bytes} :
    checkMarker padded = .ok () ↔ trim isBlank padded ≠ [] ∧
      Bytes.carriageReturn ∉ trim isBlank padded ∧ Bytes.newline ∉ trim isBlank padded ∧
      (trim isBlank padded).length ≤ maxMarkerLength := by
  unfold checkMarker
  dsimp only
  split
  · rename_i empty
    simp [List.isEmpty_iff.mp empty]
  · rename_i nonempty
    rw [List.isEmpty_iff] at nonempty
    split
    · rename_i broken
      simp only [reduceCtorEq, false_iff]
      rintro ⟨-, noReturn, noFeed, -⟩
      simp [noReturn, noFeed] at broken
    · rename_i single
      simp only [Bool.or_eq_true, List.contains_iff_mem, not_or] at single
      rw [checkLength_ok_iff]
      exact ⟨fun short => ⟨nonempty, single.1, single.2, short⟩, fun all => all.2.2.2⟩

variable {system : FileSystem} {environment : Environment} {config : Config}

theorem loadFile_ok_iff {path : Bytes} :
    loadFile system path = .ok config ↔ ∃ text fields, readFile system path = .ok text ∧
      Fields.decode text Yaml.maxSize true = .ok fields ∧
      config = fields.apply {} ∧ config.validate = .ok () := by
  simp only [loadFile, bind_ok_iff, mapError_ok_iff, pure, Except.pure,
    Except.ok.injEq]
  constructor
  · rintro ⟨text, stored, fields, decoded, _, valid, rfl⟩
    exact ⟨text, fields, stored, decoded, rfl, valid⟩
  · rintro ⟨text, fields, stored, decoded, rfl, valid⟩
    exact ⟨text, stored, fields, decoded, (), valid, rfl⟩

theorem load_ok_iff {name : Bytes} :
    load system environment name = .ok config ↔ name ≠ [] ∧
      ∃ path, locate system environment name = .ok path ∧ loadFile system path = .ok config := by
  unfold load
  split
  · rename_i empty
    simp [List.isEmpty_iff.mp empty]
  · rename_i nonempty
    rw [List.isEmpty_iff] at nonempty
    simp [bind_ok_iff, nonempty]

/-- The configuration that the flags and the environment are laid over: the one of the
name that they give, and the defaults if they give none. -/
def Beneath (system : FileSystem) (environment : Environment) (name : Bytes) (base : Config) :
    Prop :=
  if name = [] then base = {} else load system environment name = .ok base

theorem resolve_ok_iff {flags : Flags} :
    resolve system environment flags = .ok config ↔ ∃ base,
      Beneath system environment (flags.configName (Overrides.ofEnvironment environment)) base ∧
      config = flags.apply ((Overrides.ofEnvironment environment).apply base) ∧
      config.validate = .ok () := by
  unfold resolve Beneath
  dsimp only
  split
  · rename_i unnamed
    simp only [if_pos (List.isEmpty_iff.mp unnamed), bind_ok_iff, pure, Except.pure,
      Except.ok.injEq]
    constructor
    · rintro ⟨base, rfl, _, valid, rfl⟩
      exact ⟨{}, rfl, rfl, valid⟩
    · rintro ⟨base, rfl, rfl, valid⟩
      exact ⟨{}, rfl, (), valid, rfl⟩
  · rename_i named
    rw [List.isEmpty_iff] at named
    simp only [if_neg named, bind_ok_iff, mapError_ok_iff, pure, Except.pure, Except.ok.injEq]
    constructor
    · rintro ⟨base, found, _, valid, rfl⟩
      exact ⟨base, found, rfl, valid⟩
    · rintro ⟨base, found, rfl, valid⟩
      exact ⟨base, found, (), valid, rfl⟩

/-- What a configuration has gone through: its own check, loading, or resolving. -/
inductive Accepted (config : Config) : Prop where
  | validated (valid : config.validate = .ok ())
  | loaded (system : FileSystem) (environment : Environment) (name : Bytes)
      (found : load system environment name = .ok config)
  | resolved (system : FileSystem) (environment : Environment) (flags : Flags)
      (found : resolve system environment flags = .ok config)

theorem Accepted.valid (accepted : Accepted config) : config.validate = .ok () := by
  cases accepted with
  | validated valid => exact valid
  | loaded system environment name found =>
      obtain ⟨-, path, -, held⟩ := load_ok_iff.mp found
      obtain ⟨-, -, -, -, -, valid⟩ := loadFile_ok_iff.mp held
      exact valid
  | resolved system environment flags found =>
      obtain ⟨-, -, -, valid⟩ := resolve_ok_iff.mp found
      exact valid

theorem create_choices (config : Config) :
    Injector.create config.choices =
      if trim isSourceBlank config.marker = [] ∨
          Bytes.carriageReturn ∈ trim isSourceBlank config.marker ∨
          Bytes.newline ∈ trim isSourceBlank config.marker then
        .error (.cite .invalidMarker (.text (quoted (trim isSourceBlank config.marker))))
      else
        .ok
          { marker := trim isSourceBlank config.marker
            block := importBlock config.imports } := by
  simp only [Injector.create, choices, List.foldl_cons, List.foldl_nil, Injector.choose,
    Bool.or_eq_true, List.isEmpty_iff, List.contains_iff_mem, or_assoc]

/-- An accepted configuration makes an injector, unless its marker is a padding. -/
theorem create_of_accepted (accepted : Accepted config)
    (visible : ¬ Padding isSourceBlank config.marker) :
    ∃ injector, Injector.create config.choices = .ok injector ∧
      injector.marker = trim isSourceBlank config.marker ∧ injector.marker ≠ [] ∧
      injector.marker.length ≤ maxMarkerLength ∧ Bytes.carriageReturn ∉ injector.marker ∧
      Bytes.newline ∉ injector.marker := by
  obtain ⟨checked, -, -⟩ := validate_ok_iff.mp accepted.valid
  obtain ⟨-, noReturn, noFeed, short⟩ := checkMarker_ok_iff.mp checked
  have within : trim isSourceBlank config.marker <:+: trim isBlank config.marker := by
    apply trim_infix
    intro point
    simp only [isSourceBlank, Bool.or_eq_false_iff]
    exact And.left
  have nonempty : trim isSourceBlank config.marker ≠ [] := fun empty =>
    visible (trim_eq_nil_iff.mp empty)
  have single : Bytes.carriageReturn ∉ trim isSourceBlank config.marker ∧
      Bytes.newline ∉ trim isSourceBlank config.marker :=
    ⟨fun member => noReturn (within.mem member), fun member => noFeed (within.mem member)⟩
  refine ⟨{ marker := trim isSourceBlank config.marker, block := importBlock config.imports },
    ?_, rfl, nonempty, Nat.le_trans within.length_le short, single.1, single.2⟩
  rw [create_choices, if_neg (by simp [nonempty, single])]

/-- The environment gives a marker between blanks of both kinds. -/
theorem create_of_padded_marker :
    let padded : Bytes := [0x1C, 0x20] ++ ascii "import A" ++ [0xC2, 0x85, 0x1F]
    let environment : Environment := [ascii "FIXIMPORTS_MARKER=" ++ padded]
    let config : Config := { marker := padded }
    resolve { entries := [] } environment {} = .ok config ∧
      ¬ Padding isSourceBlank config.marker ∧
      ∃ injector, Injector.create config.choices = .ok injector ∧
        injector.marker = ascii "import A" := by
  intro padded environment config
  have found : resolve { entries := [] } environment {} = .ok config := by decide +kernel
  have visible : ¬ Padding isSourceBlank config.marker := by
    rw [← trim_eq_nil_iff]
    decide +kernel
  obtain ⟨injector, made, marker, -⟩ := create_of_accepted (.resolved _ _ _ found) visible
  exact ⟨found, visible, injector, made, marker.trans (by decide +kernel)⟩

/-- A marker of one separator passes the check and makes no injector. -/
theorem create_refuses_separator :
    let config : Config := { marker := [0x1C] }
    config.validate = .ok () ∧
      Injector.create config.choices = .error (.cite .invalidMarker (.text (ascii "\"\""))) := by
  decide +kernel

end Config

end ImportSplice
