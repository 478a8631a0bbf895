import ImportSplice.Proofs.Settings.Acceptance
import ImportSplice.Proofs.Yaml.StrayQuestions

/-!
Loading a configuration that has been written.  It comes back as it was exactly if its
marker is no question and none of its texts is a word that is written bare but read as a
number beyond all digits; such a word comes back in the spelling of that number.
-/

namespace ImportSplice

namespace Yaml

/-- Texts that do not come back as they were when they have been written. -/
def Misread (text : Bytes) : Prop := text ∈ unquotedWords ∨ AsksQuestion text

instance : DecidablePred Misread := fun text =>
  inferInstanceAs (Decidable (text ∈ unquotedWords ∨ AsksQuestion text))

theorem length_writtenList {texts : List Bytes} {bound : Nat}
    (short : ∀ text ∈ texts, text.length ≤ bound) :
    (writtenList texts).length ≤ 5 + texts.length * (2 * bound + 7) := by
  have items : (texts.flatMap writtenItem).length ≤ texts.length * (2 * bound + 7) := by
    induction texts with
    | nil => simp
    | cons text texts inductionHypothesis =>
        rw [List.forall_mem_cons] at short
        have later := inductionHypothesis short.2
        have here : (writtenItem text).length = (written text).length + 5 := by
          simp [writtenItem, ascii]
        have value := length_written text
        rw [List.flatMap_cons, List.length_append, List.length_cons, Nat.succ_mul]
        omega
  unfold writtenList
  split
  · have brackets : (ascii " []\n").length = 4 := by decide
    omega
  · rw [List.length_cons]
    omega

variable {config : Config}

/-- A configuration that passes its check is written in fewer bytes than are read. -/
theorem length_encode (valid : config.validate = .ok ())
    (unpadded : trim isBlank config.marker = config.marker)
    (printable : ∀ text ∈ config.marker :: config.imports, Printable text) :
    (encode config).length ≤ maxSize := by
  obtain ⟨checked, few, modules⟩ := Config.validate_ok_iff.mp valid
  obtain ⟨-, -, -, short⟩ := Config.checkMarker_ok_iff.mp checked
  rw [unpadded] at short
  have list := length_writtenList fun name member =>
    (Config.checkModules_ok_iff.mp modules name member).2.2
  have marker := length_written config.marker
  have names : (ascii "marker: ").length = 8 ∧ (ascii "imports:").length = 8 := by decide
  rw [encode_printable printable]
  simp only [List.length_append, List.length_cons, names, Config.maxMarkerLength,
    Config.maxModuleLength, Config.maxModules, maxSize] at *
  omega

/-- A name that passes its check is no question, for it holds no blank. -/
theorem not_asksQuestion_of_hasBlank {text : Bytes} (printable : Printable text)
    (clean : hasBlank text = false) : ¬ AsksQuestion text := by
  rintro ⟨-, front⟩
  have blank : Utf8.Piece.char 32 ∈ Utf8.pieces text := by
    rw [pieces_ascii printable.isAscii]
    exact List.mem_map_of_mem (front.subset (by decide : 32 ∈ ([63, 32] : Bytes)))
  rw [hasBlank, List.any_eq_false] at clean
  exact clean _ blank (by decide)

end Yaml

namespace Fields

variable {config : Config}

theorem decode_encode (valid : config.validate = .ok ())
    (unpadded : trim isBlank config.marker = config.marker)
    (right : ∀ text ∈ config.marker :: config.imports,
      Yaml.Printable text ∧ ¬ Yaml.AsksQuestion text) :
    decode (Yaml.encode config) Yaml.maxSize true =
      .ok { marker := some (Yaml.reading config.marker)
            imports := some (config.imports.map Yaml.reading) } := by
  have printable := fun text member => (right text member).1
  obtain ⟨marker, imports, ⟨scalar, rfl, known⟩, stand, read⟩ := Yaml.read_encode right
  have nonempty : (Yaml.encode config).isEmpty = false := by
    rw [Yaml.encode_printable printable]
    rfl
  have fits := Nat.not_lt.mpr (Yaml.length_encode valid unpadded printable)
  let document : Yaml.Document :=
    { entries := [(importsName, .list imports), (markerName, .scalar scalar)] }
  have opened : Yaml.decode Yaml.maxSize (some [markerName, importsName]) (Yaml.encode config) =
      .ok document := by
    simp only [Yaml.decode, nonempty, if_neg fits, read]
    rfl
  have first : text? document.anchors ((document.get? markerName).getD .nothing) =
      .ok (some (Yaml.reading config.marker)) := congrArg Except.ok known
  have second : texts? document.anchors ((document.get? importsName).getD .nothing) =
      .ok (some (config.imports.map Yaml.reading)) :=
    congrArg (Except.map some) (Yaml.itemTexts_texts stand)
  have defined : ofDocument document =
      .ok { marker := some (Yaml.reading config.marker)
            imports := some (config.imports.map Yaml.reading) } := by
    simp only [ofDocument, first, second]
  simp only [decode, if_true, opened, defined]
  rfl

theorem read_of_decode {text : Bytes} {limit : Nat} {wanted : Bool} {fields : Fields}
    (decoded : decode text limit wanted = .ok fields) :
    ∃ document, Yaml.Document.read text = .ok document := by
  unfold decode at decoded
  split at decoded
  · cases decoded
  · rename_i document opened
    unfold Yaml.decode at opened
    split at opened
    · cases opened
    split at opened
    · cases opened
    split at opened
    · cases opened
    split at opened
    · cases opened
    · rename_i read
      exact ⟨_, read⟩

end Fields

namespace Config

variable {config : Config} {system : FileSystem} {environment : Environment} {name path : Bytes}

/-- A configuration as it comes back when it has been written. -/
def reading (config : Config) : Config :=
  { marker := Yaml.reading config.marker, imports := config.imports.map Yaml.reading }

theorem reading_eq_self_iff :
    config.reading = config ↔ ∀ text ∈ config.marker :: config.imports,
      text ∉ Yaml.unquotedWords := by
  have imports := List.map_inj_left (l := config.imports) (f := Yaml.reading) (g := id)
  simp only [List.map_id, id_eq, Yaml.reading_eq_self_iff] at imports
  rw [List.forall_mem_cons, ← imports, ← Yaml.reading_eq_self_iff]
  cases config
  simp [reading]

/-- A file of a configuration is loaded as its reading, if that is acceptable. -/
theorem loadFile_encoded {loaded : Config} (valid : config.validate = .ok ())
    (unpadded : trim isBlank config.marker = config.marker)
    (right : ∀ text ∈ config.marker :: config.imports,
      Yaml.Printable text ∧ ¬ Yaml.AsksQuestion text)
    (stored : readFile system path = .ok (Yaml.encode config)) :
    loadFile system path = .ok loaded ↔ loaded = config.reading ∧ loaded.validate = .ok () := by
  have decoded := Fields.decode_encode valid unpadded right
  rw [loadFile_ok_iff]
  constructor
  · rintro ⟨text, fields, read, found, same, acceptable⟩
    cases stored.symm.trans read
    cases decoded.symm.trans found
    exact ⟨same, acceptable⟩
  · rintro ⟨same, acceptable⟩
    exact ⟨_, _, stored, decoded, same, acceptable⟩

theorem loadFile_asking {loaded : Config}
    (printable : ∀ text ∈ config.marker :: config.imports, Yaml.Printable text)
    (asks : Yaml.AsksQuestion config.marker)
    (stored : readFile system path = .ok (Yaml.encode config)) :
    loadFile system path ≠ .ok loaded := by
  intro found
  obtain ⟨text, fields, read, decoded, -⟩ := loadFile_ok_iff.mp found
  cases stored.symm.trans read
  obtain ⟨document, opened⟩ := Fields.read_of_decode decoded
  exact Yaml.read_asking printable asks opened

theorem load_located (named : name ≠ []) (located : locate system environment name = .ok path) :
    load system environment name = loadFile system path := by
  simp [load, named, located, bind, Except.bind]

/-- A configuration that has been written is loaded as it was, unless one of its texts is
misread. -/
theorem load_encoded_iff (valid : config.validate = .ok ())
    (unpadded : trim isBlank config.marker = config.marker)
    (printable : ∀ text ∈ config.marker :: config.imports, Yaml.Printable text)
    (named : name ≠ []) (located : locate system environment name = .ok path)
    (stored : readFile system path = .ok (Yaml.encode config)) :
    load system environment name = .ok config ↔
      ∀ text ∈ config.marker :: config.imports, ¬ Yaml.Misread text := by
  rw [load_located named located]
  -- Only the marker can be a question, for module names hold no blanks.
  have modules : ∀ text ∈ config.imports, ¬ Yaml.AsksQuestion text := by
    intro text member
    obtain ⟨-, -, checked⟩ := validate_ok_iff.mp valid
    exact Yaml.not_asksQuestion_of_hasBlank (printable text (List.mem_cons_of_mem _ member))
      (checkModules_ok_iff.mp checked text member).2.1
  by_cases asks : Yaml.AsksQuestion config.marker
  · constructor
    · intro loaded
      exact absurd loaded (loadFile_asking printable asks stored)
    · intro right
      exact absurd (.inr asks) (right config.marker List.mem_cons_self)
  · have unasked : ∀ text ∈ config.marker :: config.imports, ¬ Yaml.AsksQuestion text :=
      List.forall_mem_cons.mpr ⟨asks, modules⟩
    have right := fun text member => And.intro (printable text member) (unasked text member)
    rw [loadFile_encoded valid unpadded right stored, and_iff_left valid, eq_comm,
      reading_eq_self_iff]
    refine forall₂_congr fun text member => ?_
    simp [Yaml.Misread, unasked text member]

/-- A file system of one file, in which a configuration has been written. -/
def shelf (config : Config) : FileSystem :=
  { entries :=
      [([], .directory 0o755), ([ascii "c.yaml"], .file 0 (Yaml.encode config) 0o644)] }

theorem readFile_shelf : readFile config.shelf (ascii "./c.yaml") = .ok (Yaml.encode config) :=
  rfl

theorem locate_shelf :
    locate config.shelf environment (ascii "./c.yaml") = .ok (ascii "./c.yaml") :=
  rfl

/-- Quotes, escapes and signs in the marker, and names that look like other values. -/
theorem load_encoded_signs :
    let config : Config :=
      { marker := ascii "- \x22a\\b\x22 #: 'c'"
        imports := [ascii "0x1F", ascii "No", ascii "-a?:b"] }
    config.validate = .ok () ∧ trim isBlank config.marker = config.marker ∧
      (∀ text ∈ config.marker :: config.imports, Yaml.Printable text) ∧
      load config.shelf [] (ascii "./c.yaml") = .ok config := by
  intro config
  have valid : config.validate = .ok () := by decide +kernel
  have unpadded : trim isBlank config.marker = config.marker := by decide +kernel
  have printable : ∀ text ∈ config.marker :: config.imports, Yaml.Printable text := by
    decide +kernel
  have right : ∀ text ∈ config.marker :: config.imports, ¬ Yaml.Misread text := by decide +kernel
  exact ⟨valid, unpadded, printable,
    (load_encoded_iff valid unpadded printable (by decide) locate_shelf readFile_shelf).mpr right⟩

/-- An infinity passes the check and comes back in another spelling; a question passes it
and is refused. -/
theorem load_respells_infinity :
    let infinity : Config := { marker := ascii ".inf", imports := [] }
    let question : Config := { marker := ascii "? x", imports := [] }
    infinity.validate = .ok () ∧ question.validate = .ok () ∧
      load infinity.shelf [] (ascii "./c.yaml") = .ok { marker := ascii "+Inf", imports := [] } ∧
      ∀ loaded, load question.shelf [] (ascii "./c.yaml") ≠ .ok loaded := by
  intro infinity question
  have valid : infinity.validate = .ok () := by decide +kernel
  have right : ∀ text ∈ infinity.marker :: infinity.imports,
      Yaml.Printable text ∧ ¬ Yaml.AsksQuestion text := by decide +kernel
  refine ⟨valid, by decide +kernel, ?_, fun loaded => ?_⟩
  · rw [load_located (by decide) locate_shelf,
      loadFile_encoded valid (by decide +kernel) right readFile_shelf]
    decide +kernel
  · rw [load_located (by decide) locate_shelf]
    exact loadFile_asking (by decide +kernel) (by decide +kernel) readFile_shelf

end Config

end ImportSplice
