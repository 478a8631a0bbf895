import ImportSplice.Proofs.Settings.Acceptance
import ImportSplice.Proofs.Settings.FlagOrder
import ImportSplice.Proofs.Settings.ModuleLists
import ImportSplice.Proofs.Settings.RecordReading

/-!
The forms in which a list of modules can be given.  An import flag is read as a record, the
flags add up, and a variable is split and trimmed; a name that passes the check and holds
neither comma nor quote is the same to all three.  Of the rest of a command line nothing depends
on the import flags, and of the rest of the environment nothing on that variable, so the same
settings result.
-/

namespace ImportSplice

namespace Flags

variable {settings others : List (Flag × Bytes)} {values arguments : List Bytes}
  {lists : List (List Bytes)}

def withImports (flags : Flags) (imports : Option (List Bytes)) : Flags := { flags with imports }

theorem set_withImports {flag : Flag} (other : flag ≠ .imports) (flags : Flags)
    (imports : Option (List Bytes)) (value : Bytes) :
    (flags.withImports imports).set flag value =
      (flags.set flag value).map (·.withImports imports) := by
  cases flag with
  | imports => contradiction
  | config | marker => rfl
  | quiet | verbose | help | version | printConfig =>
      rw [set_switch _ rfl, set_switch _ rfl]
      cases readSwitch? value <;> rfl

theorem setAll_withImports (other : ∀ setting ∈ settings, setting.1 ≠ .imports) (flags : Flags)
    (imports : Option (List Bytes)) :
    (flags.withImports imports).setAll settings =
      (flags.setAll settings).map (·.withImports imports) := by
  induction settings generalizing flags with
  | nil => rfl
  | cons setting rest inductionHypothesis =>
      rw [List.forall_mem_cons] at other
      rw [← List.singleton_append, setAll_append, setAll_append, setAll_singleton,
        setAll_singleton, set_withImports other.1]
      cases flags.set setting.1 setting.2 with
      | error defect => rfl
      | ok next => exact inductionHypothesis other.2 next

/-- The modules to import once more lists of them are given. -/
def addLists (imports : Option (List Bytes)) (lists : List (List Bytes)) : Option (List Bytes) :=
  lists.foldl (fun imports list => some (imports.getD [] ++ list)) imports

theorem addLists_some (imports : List Bytes) (lists : List (List Bytes)) :
    addLists (some imports) lists = some (imports ++ lists.flatten) := by
  induction lists generalizing imports with
  | nil => simp [addLists]
  | cons list rest inductionHypothesis =>
      rw [addLists, List.foldl_cons, ← addLists]
      simp [inductionHypothesis]

theorem addLists_none (nonempty : lists ≠ []) : addLists none lists = some lists.flatten := by
  obtain ⟨list, rest, rfl⟩ := List.exists_cons_of_ne_nil nonempty
  exact addLists_some list rest

theorem set_imports_of_read (flags : Flags) {value : Bytes} {modules : List Bytes}
    (read : readModules value = .ok modules) :
    flags.set .imports value =
      .ok (flags.withImports (some (flags.imports.getD [] ++ modules))) := by
  rw [Flags.set, read]
  rfl

theorem valuesOf_cons (flag given : Flag) (value : Bytes) (rest : List (Flag × Bytes)) :
    valuesOf flag ((given, value) :: rest) =
      if given = flag then value :: valuesOf flag rest else valuesOf flag rest := by
  rw [valuesOf, valuesOf, List.filter_cons]
  by_cases same : given = flag <;> simp [same]

/-- Settings of the import flag can be made after all others. -/
theorem setAll_parted (flags : Flags)
    (read : (valuesOf .imports settings).mapM readModules = .ok lists) :
    flags.setAll settings =
      (flags.setAll (settings.filter fun setting => setting.1 != .imports)).map
        (·.withImports (addLists flags.imports lists)) := by
  induction settings generalizing flags lists with
  | nil =>
      cases read
      rfl
  | cons setting rest inductionHypothesis =>
      obtain ⟨flag, value⟩ := setting
      rw [valuesOf_cons] at read
      rw [← List.singleton_append, setAll_append, setAll_singleton, List.singleton_append,
        List.filter_cons]
      by_cases importing : flag = .imports
      · subst importing
        rw [if_pos rfl, List.mapM_cons] at read
        obtain ⟨list, first, later⟩ := bind_ok_iff.mp read
        obtain ⟨more, followed, same⟩ := bind_ok_iff.mp later
        cases same
        have apart : ∀ setting ∈ rest.filter fun setting => setting.1 != .imports,
            setting.1 ≠ .imports := by
          intro setting member
          simpa using (List.mem_filter.mp member).2
        -- The others come later, and none of them reads or changes the modules found so far.
        rw [set_imports_of_read flags first, if_neg (by simp)]
        change Flags.setAll _ rest = _
        rw [inductionHypothesis _ followed, setAll_withImports apart]
        cases flags.setAll (rest.filter fun setting => setting.1 != .imports) <;> rfl
      · rw [if_neg importing] at read
        rw [if_pos (by simpa using importing), ← List.singleton_append, setAll_append,
          setAll_singleton]
        cases set : flags.set flag value with
        | error defect => rfl
        | ok next =>
            obtain ⟨-, kept⟩ | ⟨imported, -⟩ := set_imports set
            · rw [← kept]
              exact inductionHypothesis next read
            · contradiction

/-- Command lines that give these values for the import flag, in order, and these settings
besides, among any positional arguments. -/
def Gives (values : List Bytes) (others : List (Flag × Bytes)) (arguments : List Bytes) : Prop :=
  ∃ occurrences positionals, Interleaved occurrences positionals arguments ∧
    (∀ argument ∈ positionals, argument.head? ≠ some 45 ∨ argument = [45]) ∧
    valuesOf .imports (occurrences.flatMap Occurrence.settings) = values ∧
    (occurrences.flatMap Occurrence.settings).filter (fun setting => setting.1 != .imports) = others

theorem Gives.read_eq (gives : Gives values others arguments)
    (read : values.mapM readModules = .ok lists) :
    ∃ positionals, Flags.read arguments =
      (setAll {} others).map fun next => (next.withImports (addLists none lists), positionals) := by
  obtain ⟨occurrences, positionals, mixed, plain, rfl, rfl⟩ := gives
  refine ⟨positionals, ?_⟩
  rw [Flags.read, readOnto_interleaved {} mixed plain, setAll_parted {} read]
  cases setAll {} _ <;> rfl

end Flags

/-! ### Names that are the same to every reader -/

section Names

variable {name : Bytes} {modules : List Bytes}

theorem isEntry_of_hasBlank (nonempty : name ≠ []) (clean : hasBlank name = false)
    (undivided : Bytes.comma ∉ name) : IsEntry name :=
  isEntry_iff.mpr ⟨nonempty, undivided, trim_eq_self_iff.mpr (trimmed_of_hasBlank clean)⟩

theorem bare_of_hasBlank (nonempty : name ≠ []) (clean : hasBlank name = false)
    (undivided : Bytes.comma ∉ name) (unquoted : Bytes.quote ∉ name) : Record.Bare name where
  nonempty := nonempty
  unbroken := newline_not_mem_of_hasBlank clean
  noReturn := byte_not_mem_of_hasBlank clean (by decide) (by decide)
  unquoted := unquoted
  undivided := undivided

theorem readModules_joined (nonempty : modules ≠ []) (bare : ∀ name ∈ modules, Record.Bare name) :
    Flags.readModules (Bytes.joinWith [Bytes.comma] modules) = .ok modules := by
  have read := Record.read_joined nonempty bare
  rw [Flags.readModules, if_neg, read]
  intro empty
  rw [List.isEmpty_iff.mp empty] at read
  contradiction

theorem mapM_readModules (bare : ∀ name ∈ modules, Record.Bare name) :
    modules.mapM Flags.readModules = .ok (modules.map fun name => [name]) := by
  induction modules with
  | nil => rfl
  | cons name rest inductionHypothesis =>
      rw [List.forall_mem_cons] at bare
      have own := readModules_joined (by simp : [name] ≠ []) (by simpa using bare.1)
      rw [Bytes.joinWith_singleton] at own
      rw [List.mapM_cons, own, inductionHypothesis bare.2]
      rfl

end Names

namespace Config

open Environment

variable {system : FileSystem} {environment supplied : Environment} {modules : List Bytes}

/-- The settings that a command line amounts to. -/
def ofArguments (system : FileSystem) (environment : Environment) (arguments : List Bytes) :
    Except Fault Config :=
  match Flags.read arguments with
  | .error defect => .error defect.toFault
  | .ok (flags, _) => resolve system environment flags

theorem ofArguments_of_gives (system : FileSystem) (environment : Environment)
    {values arguments : List Bytes} {others : List (Flag × Bytes)} {lists : List (List Bytes)}
    (gives : Flags.Gives values others arguments)
    (read : values.mapM Flags.readModules = .ok lists) :
    ofArguments system environment arguments =
      match Flags.setAll {} others with
      | .error defect => .error defect.toFault
      | .ok flags =>
          resolve system environment (flags.withImports (Flags.addLists none lists)) := by
  obtain ⟨positionals, same⟩ := gives.read_eq read
  rw [ofArguments, same]
  cases Flags.setAll {} others <;> rfl

section Supplied

variable (same : ∀ name, name ≠ importsName → supplied.get name = environment.get name)

include same

theorem load_supplied (name : Bytes) : load system supplied name = load system environment name := by
  have directory : supplied.configDirectory? = environment.configDirectory? := by
    rw [configDirectory?, configDirectory?, same _ (by decide), same _ (by decide)]
  have tried : candidates supplied name = candidates environment name := by
    rw [candidates, candidates, directory]
  rw [load, load, locate, locate, tried]

/-- Modules that a variable gives count as those of a flag, if there is no such flag. -/
theorem resolve_supplied (flags : Flags)
    (given : (Overrides.ofEnvironment supplied).imports = some modules) :
    resolve system supplied (flags.withImports none) =
      resolve system environment (flags.withImports (some modules)) := by
  have overrides : Overrides.ofEnvironment supplied =
      { Overrides.ofEnvironment environment with imports := some modules } := by
    rw [← given]
    simp only [Overrides.ofEnvironment]
    rw [same configName (by decide), same markerName (by decide)]
  rw [resolve, resolve, overrides]
  simp only [load_supplied same]
  rfl

end Supplied

theorem imports_supplied (nonempty : modules ≠ []) (entries : ∀ name ∈ modules, IsEntry name)
    (given : supplied.get importsName = Bytes.joinWith [Bytes.comma] modules) :
    (Overrides.ofEnvironment supplied).imports = some modules := by
  have split := splitModules_joinWith entries
  have visible : Bytes.joinWith [Bytes.comma] modules ≠ [] := by
    intro empty
    rw [empty, splitModules_nil] at split
    exact nonempty split.symm
  simp [Overrides.ofEnvironment, given, split, visible]

/-- The same modules as one value of the import flag, as a flag for each of them and as a
variable lead to the same settings or to the same fault, whatever else is asked for. -/
theorem ofArguments_ignores_form (system : FileSystem) {others : List (Flag × Bytes)}
    {joined repeated silent : List Bytes} (nonempty : modules ≠ [])
    (accepted : ∀ name ∈ modules, ∃ config : Config,
      config.validate = .ok () ∧ name ∈ config.imports)
    (plain : ∀ name ∈ modules, Bytes.comma ∉ name ∧ Bytes.quote ∉ name)
    (once : Flags.Gives [Bytes.joinWith [Bytes.comma] modules] others joined)
    (each : Flags.Gives modules others repeated) (without : Flags.Gives [] others silent)
    (same : ∀ name, name ≠ importsName → supplied.get name = environment.get name)
    (given : supplied.get importsName = Bytes.joinWith [Bytes.comma] modules) :
    ofArguments system environment joined = ofArguments system environment repeated ∧
      ofArguments system environment joined = ofArguments system supplied silent ∧
      ∀ config, ofArguments system environment joined = .ok config → config.imports = modules := by
  have passed : ∀ name ∈ modules, name ≠ [] ∧ hasBlank name = false := by
    intro name member
    obtain ⟨config, valid, held⟩ := accepted name member
    obtain ⟨-, -, checked⟩ := validate_ok_iff.mp valid
    obtain ⟨named, clean, -⟩ := checkModules_ok_iff.mp checked name held
    exact ⟨named, clean⟩
  have bare : ∀ name ∈ modules, Record.Bare name := fun name member =>
    bare_of_hasBlank (passed name member).1 (passed name member).2 (plain name member).1
      (plain name member).2
  have entries : ∀ name ∈ modules, IsEntry name := fun name member =>
    isEntry_of_hasBlank (passed name member).1 (passed name member).2 (plain name member).1
  have asOne : [Bytes.joinWith [Bytes.comma] modules].mapM Flags.readModules = .ok [modules] := by
    rw [List.mapM_cons, readModules_joined nonempty bare]
    rfl
  have asMany : Flags.addLists none (modules.map fun name => [name]) = some modules := by
    rw [Flags.addLists_none (by simpa using nonempty), ← List.flatMap_def,
      List.flatMap_singleton']
  rw [ofArguments_of_gives system environment once asOne,
    ofArguments_of_gives system environment each (mapM_readModules bare),
    ofArguments_of_gives system supplied without rfl, asMany]
  cases Flags.setAll {} others with
  | error defect => exact ⟨rfl, rfl, nofun⟩
  | ok flags =>
      refine ⟨rfl, ?_, ?_⟩
      · exact (resolve_supplied same flags (imports_supplied nonempty entries given)).symm
      · intro config found
        obtain ⟨base, -, rfl, -⟩ := resolve_ok_iff.mp found
        rfl

theorem get_supplied (environment : Environment) (value name : Bytes) :
    Environment.get ((importsName ++ 61 :: value) :: environment) name =
      if importsName = name then value else environment.get name := by
  have cut : Bytes.cutAt 61 (importsName ++ 61 :: value) = some (importsName, value) := rfl
  simp [Environment.get, cut]

/-- Two modules, one of them a byte that belongs to no character, as one value, as two flags
around a positional argument, and as a variable. -/
theorem ofArguments_ignores_form_of_stray_byte :
    let modules : List Bytes := [ascii "Data.Map", [0xC3]]
    let system : FileSystem := { entries := [] }
    let environment : Environment := [ascii "FIXIMPORTS_MARKER=M"]
    let supplied : Environment :=
      (importsName ++ 61 :: Bytes.joinWith [Bytes.comma] modules) :: environment
    let joined : List Bytes := [ascii "-q", ascii "--import", ascii "Data.Map," ++ [0xC3]]
    let repeated : List Bytes :=
      [ascii "-iData.Map", ascii "a.hs", ascii "--quiet", ascii "--import=" ++ [0xC3]]
    let others : List (Flag × Bytes) := [(.quiet, ascii "true")]
    Config.validate { imports := modules } = .ok () ∧
      Flags.Gives [Bytes.joinWith [Bytes.comma] modules] others joined ∧
      Flags.Gives modules others repeated ∧ Flags.Gives [] others [ascii "--quiet"] ∧
      ofArguments system environment joined = .ok { marker := ascii "M", imports := modules } ∧
      ofArguments system environment joined = ofArguments system environment repeated ∧
      ofArguments system environment joined = ofArguments system supplied [ascii "--quiet"] := by
  intro modules system environment supplied joined repeated others
  let quiet : Flags.Lettered := ⟨.quiet, 113, rfl⟩
  let imports : Flags.Lettered := ⟨.imports, 105, rfl⟩
  have once : Flags.Gives [Bytes.joinWith [Bytes.comma] modules] others joined := by
    refine ⟨[.letters [quiet] .bare (by decide) (.inl (by simp)),
      .awaiting .imports (ascii "Data.Map," ++ [0xC3]) rfl], [], ?_, by simp, by rfl, by rfl⟩
    exact .flag _ (.flag _ .done)
  have each : Flags.Gives modules others repeated := by
    refine ⟨[.letters [] (.joined imports (ascii "Data.Map") rfl (by decide) (by simp [ascii]))
        (by simp) (.inr (by simp)), .named .quiet rfl, .assigned .imports [0xC3]], [ascii "a.hs"],
      ?_, by decide, by rfl, by rfl⟩
    exact .flag _ (.positional _ (.flag _ (.flag _ .done)))
  have without : Flags.Gives [] others [ascii "--quiet"] :=
    ⟨[.named .quiet rfl], [], .flag _ .done, by simp, rfl, rfl⟩
  have valid : Config.validate { imports := modules } = .ok () := by decide +kernel
  have same : ∀ name, name ≠ importsName → supplied.get name = environment.get name := by
    intro name other
    rw [get_supplied, if_neg (Ne.symm other)]
  have given : supplied.get importsName = Bytes.joinWith [Bytes.comma] modules := by
    rw [get_supplied, if_pos rfl]
  obtain ⟨first, second, -⟩ := ofArguments_ignores_form system (by simp [modules])
    (fun name member => ⟨_, valid, member⟩) (by decide) once each without same given
  exact ⟨valid, once, each, without, by decide +kernel, first, second⟩

end Config

end ImportSplice
