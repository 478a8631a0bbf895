import ImportSplice.Proofs.Settings.Acceptance

/-!
Where each setting of a run comes from.  Four layers are asked in turn, for the marker
and for the modules alike: the flags, the environment, the file and the defaults; the
first one that says something is taken.  A flag says something even if it is empty, a
variable only if it is not, and the file with any value that stands for something.
-/

namespace ImportSplice.Config

/-- A variable that is empty says nothing. -/
def given (value : Bytes) : Option Bytes := if value = [] then none else some value

/-- What the file of a name says, if the configuration that it makes of the defaults can
be loaded; without a name nothing is said. -/
def FileLayer (system : FileSystem) (environment : Environment) (name : Bytes)
    (fields : Fields) : Prop :=
  if name = [] then fields = {}
  else ∃ path text, locate system environment name = .ok path ∧
    readFile system path = .ok text ∧ Fields.decode text Yaml.maxSize true = .ok fields ∧
    load system environment name = .ok (fields.apply {})

variable {system : FileSystem} {environment : Environment} {name : Bytes}

theorem beneath_iff {base : Config} :
    Beneath system environment name base ↔
      ∃ fields, FileLayer system environment name fields ∧ base = fields.apply {} := by
  unfold Beneath FileLayer
  split
  · rename_i unnamed
    constructor
    · rintro rfl
      exact ⟨{}, rfl, rfl⟩
    · rintro ⟨fields, rfl, rfl⟩
      rfl
  · constructor
    · intro loaded
      obtain ⟨-, path, located, held⟩ := load_ok_iff.mp loaded
      obtain ⟨text, fields, stored, decoded, rfl, -⟩ := loadFile_ok_iff.mp held
      exact ⟨fields, ⟨path, text, located, stored, decoded, loaded⟩, rfl⟩
    · rintro ⟨fields, ⟨-, -, -, -, -, loaded⟩, rfl⟩
      exact loaded

theorem configName_eq (flags : Flags) (environment : Environment) :
    flags.configName (Overrides.ofEnvironment environment) =
      (given flags.config).getD (environment.get Environment.configName) := by
  unfold Flags.configName given
  by_cases unnamed : flags.config = [] <;> simp [unnamed, Overrides.ofEnvironment]

/-- The layers one on top of the other. -/
theorem apply_layers (flags : Flags) (environment : Environment) (fields : Fields) :
    flags.apply ((Overrides.ofEnvironment environment).apply (fields.apply {})) =
      { marker := (flags.marker <|> given (environment.get Environment.markerName) <|>
          fields.marker).getD defaultMarker,
        imports := (flags.imports <|>
          (given (environment.get Environment.importsName)).map splitModules <|>
          fields.imports).getD defaultImports } := by
  simp only [Flags.apply, Overrides.apply, Overrides.ofEnvironment, Fields.apply, given,
    List.isEmpty_iff, Config.mk.injEq]
  constructor
  · cases flags.marker <;> split <;> simp
  · cases flags.imports <;> split <;> simp

/-- A run is configured if the file that it names can be loaded and the settings of all
layers together pass the check; each setting is then the one of the first layer that
gives it.  An empty marker flag gives one, so the run is refused. -/
theorem resolve_takes_first_layer (system : FileSystem) (environment : Environment)
    (flags : Flags) :
    let name := (given flags.config).getD (environment.get Environment.configName)
    (∀ config, resolve system environment flags = .ok config ↔
      ∃ fields, FileLayer system environment name fields ∧
        config.marker = (flags.marker <|> given (environment.get Environment.markerName) <|>
          fields.marker).getD defaultMarker ∧
        config.imports = (flags.imports <|>
          (given (environment.get Environment.importsName)).map splitModules <|>
          fields.imports).getD defaultImports ∧
        config.validate = .ok ()) ∧
    (flags.marker = some [] → ∀ config, resolve system environment flags ≠ .ok config) := by
  intro name
  constructor
  · intro config
    simp only [resolve_ok_iff, configName_eq, beneath_iff]
    constructor
    · rintro ⟨base, ⟨fields, layer, rfl⟩, rfl, valid⟩
      refine ⟨fields, layer, ?_, ?_, valid⟩ <;> rw [apply_layers]
    · rintro ⟨fields, layer, marker, imports, valid⟩
      refine ⟨fields.apply {}, ⟨fields, layer, rfl⟩, ?_, valid⟩
      rw [apply_layers, ← marker, ← imports]
  · intro emptied config resolved
    obtain ⟨base, -, rfl, valid⟩ := resolve_ok_iff.mp resolved
    obtain ⟨checked, -⟩ := validate_ok_iff.mp valid
    obtain ⟨nonempty, -⟩ := checkMarker_ok_iff.mp checked
    apply nonempty
    rw [Flags.apply, emptied]
    exact trim_eq_nil_iff.mpr ⟨[], by simp, rfl⟩

end ImportSplice.Config
