import ImportSplice.Proofs.Files.CleanPaths
import ImportSplice.Proofs.Files.Replacement
import ImportSplice.Proofs.Settings.Acceptance

/-!
Named configurations.  A name stands for the first of its candidates that leads to something
other than a directory.  What stands there settles how the loading ends: with the
configuration or with a fault of that candidate, but never with another candidate.  Only if no
candidate leads anywhere, the search itself fails and tells all of them.
-/

namespace ImportSplice

namespace FileSystem

/-- Looking up a path, over links, finds something other than a directory.  A look-up goes
through directories that may be searched and through no others. -/
def Offers (system : FileSystem) (path : Bytes) (object : Object) : Prop :=
  (∃ location entry, system.find .followed path = .ok (location, entry) ∧ entry.shown = object) ∧
    ∀ mode, object ≠ .directory mode

/-- The first of some paths that offers something. -/
def OffersFirst (system : FileSystem) (paths : List Bytes) (path : Bytes) (object : Object) :
    Prop :=
  ∃ earlier later, paths = earlier ++ path :: later ∧
    (∀ other ∈ earlier, ∀ object, ¬ system.Offers other object) ∧ system.Offers path object

variable {system : FileSystem} {paths : List Bytes} {path : Bytes} {object : Object}

theorem fileExists_iff : system.fileExists path = true ↔ ∃ object, system.Offers path object := by
  unfold fileExists Offers
  constructor
  · intro present
    split at present
    · contradiction
    · rename_i found noDirectory reached
      obtain ⟨location, entry⟩ := found
      refine ⟨entry.shown, ⟨location, entry, reached, rfl⟩, fun mode same => ?_⟩
      cases entry with
      | directory own => exact noDirectory location own rfl
      | file | link | device => simp [Entry.shown] at same
    · contradiction
  · rintro ⟨object, ⟨location, entry, found, rfl⟩, noDirectory⟩
    rw [found]
    cases entry with
    | directory mode => exact absurd rfl (noDirectory mode)
    | file | link | device => rfl

theorem fileExists_eq_false_iff :
    system.fileExists path = false ↔ ∀ object, ¬ system.Offers path object := by
  rw [← Bool.not_eq_true, fileExists_iff, not_exists]

theorem find?_fileExists_iff :
    paths.find? system.fileExists = some path ↔ ∃ object, system.OffersFirst paths path object := by
  simp only [List.find?_eq_some_iff_append, fileExists_iff, Bool.not_eq_true',
    fileExists_eq_false_iff, OffersFirst]
  constructor
  · rintro ⟨⟨object, offered⟩, earlier, later, cut, passed⟩
    exact ⟨object, earlier, later, cut, passed, offered⟩
  · rintro ⟨object, earlier, later, cut, passed, offered⟩
    exact ⟨⟨object, offered⟩, earlier, later, cut, passed⟩

theorem find?_fileExists_eq_none_iff :
    paths.find? system.fileExists = none ↔
      ∀ path ∈ paths, ∀ object, ¬ system.Offers path object := by
  simp only [List.find?_eq_none, Bool.not_eq_true, fileExists_eq_false_iff]

theorem exists_offersFirst (member : path ∈ paths) (offered : system.Offers path object) :
    ∃ first object, system.OffersFirst paths first object := by
  cases found : paths.find? system.fileExists with
  | none => exact absurd offered (find?_fileExists_eq_none_iff.mp found path member object)
  | some first => exact ⟨first, find?_fileExists_iff.mp found⟩

end FileSystem

/-- What can be read where an object stands. -/
inductive Object.Reads : Object → Except Refusal Bytes → Prop where
  | file {content : Bytes} {mode : Nat} (allowed : Mode.allowsReading mode = true) :
      Reads (.file content mode) (.ok content)
  | closed {content : Bytes} {mode : Nat} (denied : Mode.allowsReading mode = false) :
      Reads (.file content mode) (.error .accessDenied)
  | null : Reads (.device .null) (.ok [])
  | full : Reads (.device .full) (.error .accessDenied)
  | link (target : Bytes) : Reads (.link target) (.error .tooManyLinks)

namespace Config

variable {system : FileSystem} {environment : Environment} {name path : Bytes} {object : Object}

/-- How loading from a path ends where an object stands: it is unreadable, it cannot be
parsed, the settings in it are refused, or they make the configuration. -/
inductive LoadsTo (path : Bytes) (object : Object) : Except Fault Config → Prop where
  | unreadable {refusal : Refusal} (reads : object.Reads (.error refusal)) :
      LoadsTo path object (.error (.within (ascii "reading config file")
        (.call FileSystem.openCall path refusal)))
  | unparsable {text : Bytes} {fault : Fault} (reads : object.Reads (.ok text))
      (garbled : Fields.decode text Yaml.maxSize true = .error fault) :
      LoadsTo path object (.error (.cite .configParse (.text fault.message)))
  | refused {text : Bytes} {fields : Fields} {fault : Fault} (reads : object.Reads (.ok text))
      (decoded : Fields.decode text Yaml.maxSize true = .ok fields)
      (invalid : (fields.apply {}).validate = .error fault) :
      LoadsTo path object (.error (.within path fault))
  | loaded {text : Bytes} {fields : Fields} (reads : object.Reads (.ok text))
      (decoded : Fields.decode text Yaml.maxSize true = .ok fields)
      (valid : (fields.apply {}).validate = .ok ()) :
      LoadsTo path object (.ok (fields.apply {}))

theorem readFile_of_offers {result : Except Refusal Bytes} (offered : system.Offers path object)
    (reads : object.Reads result) :
    readFile system path = result.mapError fun refusal =>
      .within (ascii "reading config file") (.call FileSystem.openCall path refusal) := by
  obtain ⟨⟨location, entry, found, rfl⟩, -⟩ := offered
  have stored := (FileSystem.find_found found).2
  cases entry with
  | directory mode => cases reads
  | device kind =>
      cases reads with
      | null =>
          simp [readFile, FileSystem.openForReading, found, FileSystem.readAll, Except.mapError]
      | full => simp [readFile, FileSystem.openForReading, found, Except.mapError]
  | link target =>
      cases reads
      simp [readFile, FileSystem.openForReading, found, Except.mapError]
  | file serial content mode =>
      cases reads with
      | file allowed =>
          simp [readFile, FileSystem.openForReading, found, allowed, FileSystem.readAll,
            FileSystem.content, stored, Except.mapError]
      | closed denied =>
          simp [readFile, FileSystem.openForReading, found, denied, Except.mapError]

theorem reads_of_offers (offered : system.Offers path object) : ∃ result, object.Reads result := by
  cases object with
  | directory mode => exact absurd rfl (offered.2 mode)
  | device kind =>
      cases kind with
      | null => exact ⟨_, .null⟩
      | full => exact ⟨_, .full⟩
  | link target => exact ⟨_, .link target⟩
  | file content mode =>
      cases allowed : Mode.allowsReading mode with
      | true => exact ⟨_, .file allowed⟩
      | false => exact ⟨_, .closed allowed⟩

theorem LoadsTo.loadFile_eq {result : Except Fault Config} (offered : system.Offers path object)
    (ends : LoadsTo path object result) : loadFile system path = result := by
  cases ends with
  | unreadable reads =>
      rw [loadFile, readFile_of_offers offered reads]
      rfl
  | unparsable reads garbled =>
      rw [loadFile, readFile_of_offers offered reads]
      simp [Except.mapError, garbled, bind, Except.bind]
  | refused reads decoded invalid =>
      rw [loadFile, readFile_of_offers offered reads]
      simp [Except.mapError, decoded, invalid, bind, Except.bind]
  | loaded reads decoded valid =>
      rw [loadFile, readFile_of_offers offered reads]
      simp [Except.mapError, decoded, valid, bind, Except.bind, pure, Except.pure]

theorem loadsTo_of_reads (path : Bytes) {result : Except Refusal Bytes}
    (reads : object.Reads result) : ∃ ending, LoadsTo path object ending := by
  cases result with
  | error refusal => exact ⟨_, .unreadable reads⟩
  | ok text =>
      cases decoded : Fields.decode text Yaml.maxSize true with
      | error fault => exact ⟨_, .unparsable reads decoded⟩
      | ok fields =>
          cases checked : (fields.apply {}).validate with
          | error fault => exact ⟨_, .refused reads decoded checked⟩
          | ok => exact ⟨_, .loaded reads decoded checked⟩

theorem loadFile_eq_iff {result : Except Fault Config} (offered : system.Offers path object) :
    loadFile system path = result ↔ LoadsTo path object result := by
  constructor
  · intro loads
    obtain ⟨text, reads⟩ := reads_of_offers offered
    obtain ⟨ending, ends⟩ := loadsTo_of_reads path reads
    rwa [← loads, ends.loadFile_eq offered]
  · intro ends
    exact ends.loadFile_eq offered

/-- Complaints about a setting: its value is not acceptable, or too long. -/
inductive Complaint : Fault → Prop where
  | invalid (words : Bytes) : Complaint (.cite .invalidField (.text words))
  | long (words : Bytes) : Complaint (.cite .fieldTooLong (.text words))

variable {fault : Fault}

theorem complaint_of_checkLength {field value : Bytes} {limit : Nat}
    (refused : checkLength field value limit = .error fault) : Complaint fault := by
  unfold checkLength at refused
  split at refused
  · cases refused
    exact .long _
  · contradiction

theorem complaint_of_checkMarker {marker : Bytes}
    (refused : checkMarker marker = .error fault) : Complaint fault := by
  unfold checkMarker at refused
  dsimp only at refused
  split at refused
  · cases refused
    exact .invalid _
  · split at refused
    · cases refused
      exact .invalid _
    · exact complaint_of_checkLength refused

theorem complaint_of_checkModule {index : Nat} {name : Bytes}
    (refused : checkModule index name = .error fault) : Complaint fault := by
  unfold checkModule at refused
  dsimp only at refused
  split at refused
  · cases refused
    exact .invalid _
  · split at refused
    · cases refused
      exact .invalid _
    · exact complaint_of_checkLength refused

theorem complaint_of_checkModules {index : Nat} {names : List Bytes}
    (refused : checkModules index names = .error fault) : Complaint fault := by
  induction names generalizing index with
  | nil => contradiction
  | cons name rest inductionHypothesis =>
      rw [checkModules] at refused
      split at refused
      · exact inductionHypothesis refused
      · rename_i first
        cases refused
        exact complaint_of_checkModule first

theorem complaint_of_validate {config : Config} (refused : config.validate = .error fault) :
    Complaint fault := by
  unfold validate at refused
  split at refused
  · rename_i first
    cases refused
    exact complaint_of_checkMarker first
  · split at refused
    · cases refused
      exact .invalid _
    · exact complaint_of_checkModules refused

theorem LoadsTo.search?_eq_none (ends : LoadsTo path object (.error fault)) :
    fault.search? = none := by
  cases ends with
  | unreadable | unparsable => rfl
  | refused reads decoded invalid => cases complaint_of_validate invalid <;> rfl

section Named

variable (named : name ≠ []) (noSlash : Bytes.slash ∉ name) (noBackslash : 92 ∉ name)

include named noSlash noBackslash

theorem load_of_name :
    load system environment name =
      match (candidates environment name).find? system.fileExists with
      | some path => loadFile system path
      | none => .error (.notFound name (candidates environment name)) := by
  have filled : name.isEmpty = false := by simpa using named
  have plain : Path.looksLikePath name = false := by
    simp [Path.looksLikePath, noSlash, noBackslash]
  rw [load, locate, filled, plain]
  cases (candidates environment name).find? system.fileExists <;> rfl

theorem load_unoffered
    (none : ∀ path ∈ candidates environment name, ∀ object, ¬ system.Offers path object) :
    load system environment name = .error (.notFound name (candidates environment name)) := by
  rw [load_of_name named noSlash noBackslash,
    FileSystem.find?_fileExists_eq_none_iff.mpr none]

theorem load_offered {result : Except Fault Config}
    (first : system.OffersFirst (candidates environment name) path object) :
    load system environment name = result ↔ LoadsTo path object result := by
  have found := FileSystem.find?_fileExists_iff.mpr ⟨object, first⟩
  obtain ⟨-, -, -, -, offered⟩ := first
  rw [load_of_name named noSlash noBackslash, found]
  exact loadFile_eq_iff offered

theorem search?_isSome_iff :
    (∃ fault, load system environment name = .error fault ∧ fault.search?.isSome) ↔
      ∀ path ∈ candidates environment name, ∀ object, ¬ system.Offers path object := by
  rw [← FileSystem.find?_fileExists_eq_none_iff]
  constructor
  · rintro ⟨fault, failed, searched⟩
    cases found : (candidates environment name).find? system.fileExists with
    | none => rfl
    | some path =>
        obtain ⟨object, first⟩ := FileSystem.find?_fileExists_iff.mp found
        have ends := (load_offered named noSlash noBackslash first).mp failed
        simp [ends.search?_eq_none] at searched
  · intro none
    exact ⟨_, load_unoffered named noSlash noBackslash
      (FileSystem.find?_fileExists_eq_none_iff.mp none), rfl⟩

end Named

theorem kept_of_extension {extension : Bytes} (known : extension ∈ extensions)
    (noSlash : Bytes.slash ∉ name) :
    Path.Kept (name ++ extension) ∧ name ++ extension ≠ Path.parent := by
  have proper : 2 < extension.length ∧ Bytes.slash ∉ extension := by
    revert extension
    decide
  have longer : ∀ short : Bytes, short.length ≤ 2 → name ++ extension ≠ short := by
    intro short few same
    rw [← same, List.length_append] at few
    omega
  have unbroken : Bytes.slash ∉ name ++ extension := by
    rw [List.mem_append, not_or]
    exact ⟨noSlash, proper.2⟩
  exact ⟨⟨longer [] (by decide), longer Path.current (by decide), unbroken⟩,
    longer Path.parent (by decide)⟩

theorem configDirectory?_ne_nil {directory : Bytes}
    (known : environment.configDirectory? = some directory) : directory ≠ [] := by
  unfold Environment.configDirectory? at known
  dsimp only at known
  rintro rfl
  split at known
  · rename_i configured
    split at known
    · rw [Option.some.inj known] at configured
      simp at configured
    · contradiction
  · split at known
    · contradiction
    · have ending := congrArg List.length (Option.some.inj known)
      simp [ascii] at ending

/-- Where the configurations of the program are in the configuration directory of a user. -/
def homeIn (directory : Bytes) : Bytes := Path.below (Path.clean directory) (ascii "fiximports")

theorem join_configs {directory : Bytes} (filled : directory ≠ []) {base : Bytes}
    (kept : Path.Kept base) (ordinary : base ≠ Path.parent) :
    Path.join [directory, ascii "fiximports", base] =
      homeIn directory ++ Bytes.slash :: base := by
  have inner : Path.Kept (ascii "fiximports") := ⟨by decide, by decide, by decide⟩
  have whole : Bytes.joinWith [Bytes.slash] [directory, ascii "fiximports", base] =
      (directory ++ Bytes.slash :: ascii "fiximports") ++ Bytes.slash :: base := by
    simp [Bytes.joinWith_cons_cons]
  rw [Path.join, whole, Path.clean_append_name (by simp) kept ordinary,
    Path.clean_append_name filled inner (by decide), Path.below_below inner, homeIn]

theorem candidates_eq (environment : Environment) (noSlash : Bytes.slash ∉ name) :
    candidates environment name =
      [name ++ ascii ".yaml", name ++ ascii ".yml"] ++
        environment.configDirectory?.elim [] fun directory =>
          [homeIn directory ++ ascii "/" ++ name ++ ascii ".yaml",
            homeIn directory ++ ascii "/" ++ name ++ ascii ".yml"] := by
  unfold candidates
  cases known : environment.configDirectory? with
  | none => rfl
  | some directory =>
      have joined : ∀ extension ∈ extensions,
          Path.join [directory, ascii "fiximports", name ++ extension] =
            homeIn directory ++ ascii "/" ++ name ++ extension := by
        intro extension member
        obtain ⟨kept, ordinary⟩ := kept_of_extension member noSlash
        rw [join_configs (configDirectory?_ne_nil known) kept ordinary]
        simp [ascii, Bytes.slash]
      simp only [List.map_congr_left joined]
      rfl

/-- A name stands for the first of its candidates that leads to something other than a
directory, and what stands there settles how the loading ends, whatever the later candidates
are.  The search fails only if there is no such candidate, and then tells all of them. -/
theorem load_settled_by_first_candidate (system : FileSystem) (environment : Environment)
    {name : Bytes} (named : name ≠ []) (noSlash : Bytes.slash ∉ name) (noBackslash : 92 ∉ name) :
    candidates environment name =
      [name ++ ascii ".yaml", name ++ ascii ".yml"] ++
        environment.configDirectory?.elim [] (fun directory =>
          [homeIn directory ++ ascii "/" ++ name ++ ascii ".yaml",
            homeIn directory ++ ascii "/" ++ name ++ ascii ".yml"]) ∧
    ((∃ fault, load system environment name = .error fault ∧ fault.search?.isSome) ↔
      ∀ path ∈ candidates environment name, ∀ object, ¬ system.Offers path object) ∧
    ((∀ path ∈ candidates environment name, ∀ object, ¬ system.Offers path object) →
      load system environment name = .error (.notFound name (candidates environment name))) ∧
    ((∃ path ∈ candidates environment name, ∃ object, system.Offers path object) →
      ∃ path object, system.OffersFirst (candidates environment name) path object) ∧
    ∀ path object, system.OffersFirst (candidates environment name) path object →
      (∀ result, load system environment name = result ↔ LoadsTo path object result) ∧
      ∀ (other : FileSystem) (altered : Environment),
        other.OffersFirst (candidates altered name) path object →
        load other altered name = load system environment name := by
  refine ⟨candidates_eq environment noSlash, search?_isSome_iff named noSlash noBackslash,
    load_unoffered named noSlash noBackslash, ?_, ?_⟩
  · rintro ⟨path, member, object, offered⟩
    exact FileSystem.exists_offersFirst member offered
  · intro path object first
    refine ⟨fun _ => load_offered named noSlash noBackslash first, ?_⟩
    intro other altered again
    rw [load_offered named noSlash noBackslash again,
      ← load_offered named noSlash noBackslash first]

/-- The third candidate is a link to a file that may not be read, behind a directory and a link
to nothing; the fourth would load, but it makes no difference whether it is there. -/
theorem load_settled_by_unreadable_candidate :
    let name := ascii "c"
    let environment : Environment := [ascii "XDG_CONFIG_HOME=/x"]
    let home : Location := [ascii "fiximports", ascii "x"]
    let without : FileSystem :=
      { entries :=
          [([], .directory 0o755), ([ascii "c.yaml"], .directory 0o755),
            ([ascii "c.yml"], .link (ascii "gone")), (home.tail, .directory 0o755),
            (home, .directory 0o755), (ascii "c.yaml" :: home, .link (ascii "/secret")),
            ([ascii "secret"], .file 0 (ascii "marker: M\n") 0o200)] }
    let system := without.insert (ascii "c.yml" :: home) (.file 1 (ascii "marker: N\n") 0o644)
    let path := ascii "/x/fiximports/c.yaml"
    let object : Object := .file (ascii "marker: M\n") 0o200
    name ≠ [] ∧ Bytes.slash ∉ name ∧ 92 ∉ name ∧
      candidates environment name =
        [ascii "c.yaml", ascii "c.yml", path, ascii "/x/fiximports/c.yml"] ∧
      system.OffersFirst (candidates environment name) path object ∧
      load system environment name = .error (.within (ascii "reading config file")
        (.call FileSystem.openCall path .accessDenied)) ∧
      without.OffersFirst (candidates environment name) path object ∧
      load without environment name = load system environment name ∧
      load { entries := [] } environment name =
        .error (.notFound name (candidates environment name)) := by
  intro name environment home without system path object
  have named : name ≠ [] := by decide
  have noSlash : Bytes.slash ∉ name := by decide
  have noBackslash : 92 ∉ name := by decide
  have listed : candidates environment name =
      [ascii "c.yaml", ascii "c.yml", path, ascii "/x/fiximports/c.yml"] := by decide +kernel
  have first : ∀ state ∈ [system, without],
      state.OffersFirst (candidates environment name) path object := by
    have passed : ∀ state ∈ [system, without], ∀ other ∈ [ascii "c.yaml", ascii "c.yml"],
        state.fileExists other = false := by decide +kernel
    have reached : ∀ state ∈ [system, without], state.find .followed path =
        .ok ([ascii "secret"], .file 0 (ascii "marker: M\n") 0o200) := by decide +kernel
    intro state member
    refine ⟨[ascii "c.yaml", ascii "c.yml"], [ascii "/x/fiximports/c.yml"], listed, ?_,
      ⟨_, _, reached state member, rfl⟩, by simp [object]⟩
    intro other earlier
    exact FileSystem.fileExists_eq_false_iff.mp (passed state member other earlier)
  have unoffered : ∀ path ∈ candidates environment name, ∀ object,
      ¬ FileSystem.Offers { entries := [] } path object := by
    intro path member
    rw [← FileSystem.fileExists_eq_false_iff]
    revert path
    decide +kernel
  obtain ⟨-, -, -, -, settled⟩ :=
    load_settled_by_first_candidate system environment named noSlash noBackslash
  obtain ⟨-, -, failed, -, -⟩ :=
    load_settled_by_first_candidate { entries := [] } environment named noSlash noBackslash
  obtain ⟨ends, same⟩ := settled path object (first system (by simp))
  exact ⟨named, noSlash, noBackslash, listed, first system (by simp),
    (ends _).mpr (.unreadable (.closed rfl)), first without (by simp),
    same without environment (first without (by simp)), failed unoffered⟩

end Config

end ImportSplice
