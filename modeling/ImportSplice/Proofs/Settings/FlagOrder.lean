import ImportSplice.Proofs.Settings.ArgumentReading

/-!
Flags among positional arguments.  An occurrence of a flag comes to a list of settings,
whatever stands behind it, and a positional argument comes to none, so a command line is
read as the settings of its occurrences in order.  Of the settings of one flag the last
one counts; those of the import flag add up.
-/

namespace ImportSplice.Flags

/-- A flag that can be given by a letter. -/
structure Lettered where
  flag : Flag
  letter : UInt8
  known : flag.letter? = some letter

/-- What may come behind the switches of a group of letters. -/
inductive GroupEnd where
  | bare
  /-- The value follows the last letter at once.  Behind an equals sign it would be another
  value. -/
  | joined (last : Lettered) (value : Bytes) (valued : last.flag.isSwitch = false)
      (nonempty : value ≠ []) (noSign : ∀ first more, value ≠ 61 :: first :: more)
  | assigned (last : Lettered) (value : Bytes) (nonempty : value ≠ [])
  /-- The value is the next argument, whatever it looks like. -/
  | awaiting (last : Lettered) (value : Bytes) (valued : last.flag.isSwitch = false)

/-- A flag in one of the forms in which it can be given, or letters of several flags behind
one dash. -/
inductive Occurrence where
  | named (flag : Flag) (switch : flag.isSwitch = true)
  | assigned (flag : Flag) (value : Bytes)
  | awaiting (flag : Flag) (value : Bytes) (valued : flag.isSwitch = false)
  | letters (switches : List Lettered) (ending : GroupEnd)
      (switched : ∀ switch ∈ switches, switch.flag.isSwitch = true)
      (nonempty : switches ≠ [] ∨ ending ≠ .bare)

namespace GroupEnd

def text : GroupEnd → Bytes
  | bare => []
  | joined last value _ _ _ => last.letter :: value
  | assigned last value _ => last.letter :: 61 :: value
  | awaiting last _ _ => [last.letter]

def arguments : GroupEnd → List Bytes
  | awaiting _ value _ => [value]
  | _ => []

def settings : GroupEnd → List (Flag × Bytes)
  | bare => []
  | joined last value _ _ _ | assigned last value _ | awaiting last value _ => [(last.flag, value)]

end GroupEnd

namespace Occurrence

/-- The arguments that an occurrence takes up. -/
def arguments : Occurrence → List Bytes
  | named flag _ => [ascii "--" ++ flag.name]
  | assigned flag value => [ascii "--" ++ flag.name ++ 61 :: value]
  | awaiting flag value _ => [ascii "--" ++ flag.name, value]
  | letters switches ending _ _ =>
      (45 :: switches.map Lettered.letter ++ ending.text) :: ending.arguments

/-- The flags that an occurrence gives, with their values. -/
def settings : Occurrence → List (Flag × Bytes)
  | named flag _ => [(flag, ascii "true")]
  | assigned flag value | awaiting flag value _ => [(flag, value)]
  | letters switches ending _ _ =>
      switches.map (fun switch => (switch.flag, ascii "true")) ++ ending.settings

end Occurrence

/-- Arguments that mix occurrences of flags with positional arguments and keep the order of
both. -/
inductive Interleaved : List Occurrence → List Bytes → List Bytes → Prop where
  | done : Interleaved [] [] []
  | flag {occurrences : List Occurrence} {positionals rest : List Bytes} (occurrence : Occurrence)
      (later : Interleaved occurrences positionals rest) :
      Interleaved (occurrence :: occurrences) positionals (occurrence.arguments ++ rest)
  | positional {occurrences : List Occurrence} {positionals rest : List Bytes} (argument : Bytes)
      (later : Interleaved occurrences positionals rest) :
      Interleaved occurrences (argument :: positionals) (argument :: rest)

def setAll (flags : Flags) (settings : List (Flag × Bytes)) : Except FlagDefect Flags :=
  settings.foldlM (fun flags setting => flags.set setting.1 setting.2) flags

theorem setAll_append (flags : Flags) (first second : List (Flag × Bytes)) :
    flags.setAll (first ++ second) = flags.setAll first >>= fun next => next.setAll second :=
  List.foldlM_append

theorem set_switch (flags : Flags) {flag : Flag} (switch : flag.isSwitch = true) (value : Bytes) :
    flags.set flag value =
      match readSwitch? value with
      | some setting => .ok (flags.turn flag setting)
      | none => .error (.badSwitch flag value) := by
  cases flag with
  | config | marker | imports => contradiction
  | quiet | verbose | help | version | printConfig => rfl

theorem set_switch_true (flags : Flags) {flag : Flag} (switch : flag.isSwitch = true) :
    flags.set flag (ascii "true") = .ok (flags.turn flag true) :=
  set_switch flags switch (ascii "true")

theorem ofName?_name (flag : Flag) : Flag.ofName? flag.name = some flag := by
  cases flag <;> decide

theorem ofText_name (flag : Flag) :
    Argument.ofText (ascii "--" ++ flag.name) = .long flag.name none := by
  cases flag <;> rfl

theorem ofText_assigned (flag : Flag) (value : Bytes) :
    Argument.ofText (ascii "--" ++ flag.name ++ 61 :: value) = .long flag.name (some value) := by
  cases flag <;> rfl

theorem Lettered.ofLetter? (lettered : Lettered) :
    Flag.ofLetter? lettered.letter = some lettered.flag := by
  obtain ⟨flag, letter, known⟩ := lettered
  cases flag <;> cases known <;> rfl

/-- A letter of a flag is no dash, no equals sign, and does not start the word `test`. -/
theorem Lettered.letter_ne (lettered : Lettered) :
    lettered.letter ≠ 45 ∧ lettered.letter ≠ 61 ∧ lettered.letter ≠ 116 := by
  obtain ⟨flag, letter, known⟩ := lettered
  cases flag <;> cases known <;> decide

theorem readGroup_lettered (flags : Flags) (lettered : Lettered) (rest : Bytes) :
    flags.readGroup (lettered.letter :: rest) =
      match rest with
      | 61 :: first :: more => (flags.set lettered.flag (first :: more)).map .done
      | _ =>
          if lettered.flag.isSwitch then (flags.turn lettered.flag true).readGroup rest
          else if rest.isEmpty then .ok (.awaiting flags lettered.flag lettered.letter)
          else (flags.set lettered.flag rest).map .done := by
  have ordinary : (ascii "test.").isPrefixOf (lettered.letter :: rest) = false := by
    have other : (116 == lettered.letter) = false :=
      beq_eq_false_iff_ne.mpr lettered.letter_ne.2.2.symm
    simp [ascii, List.isPrefixOf, other]
  rw [readGroup, ordinary, lettered.ofLetter?]
  rfl

theorem readGroup_switches (flags : Flags) (switches : List Lettered)
    (switched : ∀ switch ∈ switches, switch.flag.isSwitch = true) :
    ∃ next, flags.setAll (switches.map fun switch => (switch.flag, ascii "true")) = .ok next ∧
      ∀ rest : Bytes, rest.head? ≠ some 61 →
        flags.readGroup (switches.map Lettered.letter ++ rest) = next.readGroup rest := by
  induction switches generalizing flags with
  | nil => exact ⟨flags, rfl, fun _ _ => rfl⟩
  | cons switch others inductionHypothesis =>
      have own := switched switch (by simp)
      obtain ⟨next, set, read⟩ := inductionHypothesis (flags.turn switch.flag true)
        fun other member => switched other (by simp [member])
      refine ⟨next, ?_, ?_⟩
      · rw [setAll, List.map_cons, List.foldlM_cons, set_switch_true flags own]
        exact set
      · intro rest noSign
        rw [List.map_cons, List.cons_append, readGroup_lettered, ← read rest noSign]
        split
        · rename_i first more cut
          have head := congrArg List.head? cut
          cases others with
          | nil => exact absurd head noSign
          | cons other _ => exact absurd (Option.some.inj head) other.letter_ne.2.1
        · rw [if_pos own]

theorem setAll_singleton (flags : Flags) (flag : Flag) (value : Bytes) :
    flags.setAll [(flag, value)] = flags.set flag value := by
  rw [setAll, List.foldlM_cons]
  cases flags.set flag value <;> rfl

namespace GroupEnd

theorem head?_text_ne (ending : GroupEnd) :
    ending.text.head? ≠ some 45 ∧ ending.text.head? ≠ some 61 := by
  cases ending with
  | bare => simp [text]
  | joined last | assigned last | awaiting last => simp [text, last.letter_ne]

theorem readGroup_text (flags : Flags) (ending : GroupEnd) :
    (ending.arguments = [] ∧
      flags.readGroup ending.text = (flags.setAll ending.settings).map .done) ∨
    ∃ flag letter value, ending.arguments = [value] ∧ ending.settings = [(flag, value)] ∧
      flags.readGroup ending.text = .ok (.awaiting flags flag letter) := by
  cases ending with
  | bare => exact .inl ⟨rfl, rfl⟩
  | joined last value valued nonempty noSign =>
      refine .inl ⟨rfl, ?_⟩
      rw [text, settings, setAll_singleton, readGroup_lettered]
      split
      · exact absurd rfl (noSign _ _)
      · simp [valued, nonempty]
  | assigned last value nonempty =>
      obtain ⟨first, more, rfl⟩ := List.exists_cons_of_ne_nil nonempty
      refine .inl ⟨rfl, ?_⟩
      rw [text, settings, setAll_singleton, readGroup_lettered]
      rfl
  | awaiting last value valued =>
      refine .inr ⟨last.flag, last.letter, value, rfl, rfl, ?_⟩
      rw [text, readGroup_lettered]
      simp [valued]

end GroupEnd

theorem ofText_letters {group : Bytes} (nonempty : group ≠ []) (noDash : group.head? ≠ some 45) :
    Argument.ofText (45 :: group) = .letters group := by
  cases group with
  | nil => contradiction
  | cons letter rest =>
      have other : letter ≠ 45 := by simpa using noDash
      simp [Argument.ofText, other]

theorem readOnto_letters (flags : Flags) (switches : List Lettered) (ending : GroupEnd)
    (switched : ∀ switch ∈ switches, switch.flag.isSwitch = true)
    (nonempty : switches ≠ [] ∨ ending ≠ .bare) (rest : List Bytes) :
    flags.readOnto ((Occurrence.letters switches ending switched nonempty).arguments ++ rest) =
      flags.setAll (Occurrence.letters switches ending switched nonempty).settings >>=
        fun next => next.readOnto rest := by
  obtain ⟨next, set, read⟩ := readGroup_switches flags switches switched
  have shape : Argument.ofText (45 :: (switches.map Lettered.letter ++ ending.text)) =
      .letters (switches.map Lettered.letter ++ ending.text) := by
    cases switches with
    | nil =>
        refine ofText_letters ?_ ending.head?_text_ne.1
        cases ending <;> simp_all [GroupEnd.text]
    | cons switch others => exact ofText_letters (by simp) (by simp [switch.letter_ne])
  rw [Occurrence.arguments, Occurrence.settings, setAll_append, set, List.cons_append,
    List.cons_append, readOnto_cons, effect, shape]
  simp only [read _ ending.head?_text_ne.2]
  change _ = next.setAll ending.settings >>= fun next => next.readOnto rest
  rcases ending.readGroup_text next with ⟨alone, done⟩ | ⟨flag, letter, value, taken, given, waits⟩
  · rw [alone, List.nil_append, done]
    cases next.setAll ending.settings <;> rfl
  · rw [taken, given, setAll_singleton, waits]
    simp only [List.singleton_append]
    cases next.set flag value <;> rfl

/-- An occurrence is read as its settings, and what comes behind it is read after them. -/
theorem readOnto_occurrence (flags : Flags) (occurrence : Occurrence) (rest : List Bytes) :
    flags.readOnto (occurrence.arguments ++ rest) =
      flags.setAll occurrence.settings >>= fun next => next.readOnto rest := by
  cases occurrence with
  | named flag switch =>
      rw [Occurrence.arguments, Occurrence.settings, setAll_singleton, set_switch_true flags switch,
        List.singleton_append, readOnto_cons, effect, ofText_name]
      simp only [ofName?_name, switch, if_true]
      rfl
  | assigned flag value =>
      rw [Occurrence.arguments, Occurrence.settings, setAll_singleton, List.singleton_append,
        readOnto_cons, effect, ofText_assigned]
      simp only [ofName?_name]
      cases flags.set flag value <;> rfl
  | awaiting flag value valued =>
      rw [Occurrence.arguments, Occurrence.settings, setAll_singleton, List.cons_append,
        List.singleton_append, readOnto_cons, effect, ofText_name]
      simp only [ofName?_name, valued, Bool.false_eq_true, if_false]
      cases flags.set flag value <;> rfl
  | letters switches ending switched nonempty =>
      exact readOnto_letters flags switches ending switched nonempty rest

theorem effect_plain (flags : Flags) {argument : Bytes}
    (plain : argument.head? ≠ some 45 ∨ argument = [45]) :
    flags.effect argument = .positional := by
  rcases plain with other | rfl
  · exact effect_positional flags other
  · rfl

variable {occurrences : List Occurrence} {positionals arguments : List Bytes}

theorem readOnto_interleaved (flags : Flags)
    (mixed : Interleaved occurrences positionals arguments)
    (plain : ∀ argument ∈ positionals, argument.head? ≠ some 45 ∨ argument = [45]) :
    flags.readOnto arguments =
      (flags.setAll (occurrences.flatMap Occurrence.settings)).map fun next =>
        (next, positionals) := by
  induction mixed generalizing flags with
  | done => rfl
  | flag occurrence later inductionHypothesis =>
      rw [readOnto_occurrence, List.flatMap_cons, setAll_append]
      cases flags.setAll occurrence.settings with
      | error defect => rfl
      | ok next => exact inductionHypothesis next plain
  | positional argument later inductionHypothesis =>
      rw [readOnto_cons, effect_plain flags (plain argument (by simp))]
      simp only [inductionHypothesis flags fun other member => plain other (by simp [member])]
      cases flags.setAll _ <;> rfl

theorem interleaved_in_turn (occurrences : List Occurrence) (positionals : List Bytes) :
    Interleaved occurrences positionals
      (occurrences.flatMap Occurrence.arguments ++ positionals) := by
  induction occurrences with
  | nil =>
      induction positionals with
      | nil => exact .done
      | cons argument rest inductionHypothesis => exact .positional argument inductionHypothesis
  | cons occurrence rest inductionHypothesis =>
      rw [List.flatMap_cons, List.append_assoc]
      exact .flag occurrence inductionHypothesis

/-- The values given for a flag, in order. -/
def valuesOf (flag : Flag) (settings : List (Flag × Bytes)) : List Bytes :=
  (settings.filter fun setting => setting.1 == flag).map Prod.snd

/-- Whether a switch is on. -/
def isOn (flags : Flags) : Flag → Bool
  | .quiet => flags.quiet
  | .verbose => flags.verbose
  | .help => flags.help
  | .version => flags.version
  | .printConfig => flags.printConfig
  | .config | .marker | .imports => false

/-- Flags that hold what settings say: the last value of each flag counts, and all modules
are imported, in order. -/
structure Reflects (settings : List (Flag × Bytes)) (flags : Flags) : Prop where
  config : flags.config = (valuesOf .config settings).getLast?.getD []
  marker : flags.marker = (valuesOf .marker settings).getLast?
  imports : ∃ lists, (valuesOf .imports settings).mapM readModules = .ok lists ∧
    flags.imports =
      if (valuesOf .imports settings).isEmpty then none else some lists.flatten
  switches : ∀ flag, flag.isSwitch = true →
    flags.isOn flag = ((valuesOf flag settings).getLast?.bind readSwitch?).getD false

/-- Whether a value can be given for a flag. -/
def accepts (flag : Flag) (value : Bytes) : Bool :=
  match flag with
  | .config | .marker => true
  | .imports => (readModules value).isOk
  | .quiet | .verbose | .help | .version | .printConfig => (readSwitch? value).isSome

variable {flags next : Flags} {flag : Flag} {value : Bytes} {settings : List (Flag × Bytes)}

theorem set_ok (set : flags.set flag value = .ok next) :
    (flag = .config ∧ next = { flags with config := value }) ∨
    (flag = .marker ∧ next = { flags with marker := some value }) ∨
    (flag = .imports ∧ ∃ modules, readModules value = .ok modules ∧
      next = { flags with imports := some (flags.imports.getD [] ++ modules) }) ∨
    (flag.isSwitch = true ∧ ∃ setting, readSwitch? value = some setting ∧
      next = flags.turn flag setting) := by
  cases kind : flag.isSwitch with
  | true =>
      rw [set_switch flags kind] at set
      cases found : readSwitch? value with
      | none =>
          rw [found] at set
          contradiction
      | some setting =>
          rw [found] at set
          exact .inr (.inr (.inr ⟨rfl, setting, rfl, (Except.ok.inj set).symm⟩))
  | false =>
      cases flag with
      | config => exact .inl ⟨rfl, (Except.ok.inj set).symm⟩
      | marker => exact .inr (.inl ⟨rfl, (Except.ok.inj set).symm⟩)
      | imports =>
          rw [Flags.set] at set
          cases read : readModules value with
          | error defect =>
              rw [read] at set
              contradiction
          | ok modules =>
              rw [read] at set
              exact .inr (.inr (.inl ⟨rfl, modules, rfl, (Except.ok.inj set).symm⟩))
      | quiet | verbose | help | version | printConfig => contradiction

theorem set_ok_iff (flags : Flags) (flag : Flag) (value : Bytes) :
    (∃ next, flags.set flag value = .ok next) ↔ accepts flag value = true := by
  cases kind : flag.isSwitch with
  | true =>
      have shown : accepts flag value = (readSwitch? value).isSome := by
        cases flag with
        | config | marker | imports => contradiction
        | quiet | verbose | help | version | printConfig => rfl
      rw [shown, set_switch flags kind]
      cases readSwitch? value <;> simp
  | false =>
      cases flag with
      | config | marker => exact ⟨fun _ => rfl, fun _ => ⟨_, rfl⟩⟩
      | imports =>
          rw [Flags.set, accepts]
          cases readModules value <;> simp [Except.isOk, Except.toBool]
      | quiet | verbose | help | version | printConfig => contradiction

theorem setAll_ok_iff (flags : Flags) :
    (∃ next, flags.setAll settings = .ok next) ↔
      ∀ setting ∈ settings, accepts setting.1 setting.2 = true := by
  induction settings generalizing flags with
  | nil => exact ⟨fun _ _ member => by simp at member, fun _ => ⟨flags, rfl⟩⟩
  | cons setting rest inductionHypothesis =>
      rw [List.forall_mem_cons, ← set_ok_iff flags, ← List.singleton_append, setAll_append,
        setAll_singleton]
      cases flags.set setting.1 setting.2 with
      | error defect => exact ⟨nofun, fun ⟨⟨_, refused⟩, _⟩ => nomatch refused⟩
      | ok next =>
          exact ⟨fun set => ⟨⟨next, rfl⟩, (inductionHypothesis next).mp set⟩,
            fun accepted => (inductionHypothesis next).mpr accepted.2⟩

@[simp]
theorem turn_config (flags : Flags) (flag : Flag) (value : Bool) :
    (flags.turn flag value).config = flags.config := by
  cases flag <;> rfl

@[simp]
theorem turn_marker (flags : Flags) (flag : Flag) (value : Bool) :
    (flags.turn flag value).marker = flags.marker := by
  cases flag <;> rfl

@[simp]
theorem turn_imports (flags : Flags) (flag : Flag) (value : Bool) :
    (flags.turn flag value).imports = flags.imports := by
  cases flag <;> rfl

theorem isOn_turn (flags : Flags) (switch : flag.isSwitch = true) (value : Bool) (other : Flag) :
    (flags.turn flag value).isOn other = if flag = other then value else flags.isOn other := by
  cases flag with
  | config | marker | imports => contradiction
  | quiet | verbose | help | version | printConfig => cases other <;> rfl

theorem valuesOf_append (flag : Flag) (settings : List (Flag × Bytes)) (given : Flag)
    (value : Bytes) :
    valuesOf flag (settings ++ [(given, value)]) =
      if given = flag then valuesOf flag settings ++ [value] else valuesOf flag settings := by
  rw [valuesOf, valuesOf, List.filter_append, List.map_append]
  by_cases same : given = flag <;> simp [same]

theorem valuesOf_ne_nil {flag : Flag} {settings : List (Flag × Bytes)} :
    valuesOf flag settings ≠ [] ↔ ∃ value, (flag, value) ∈ settings := by
  simp [valuesOf, List.filter_eq_nil_iff]

theorem set_config (set : flags.set flag value = .ok next) :
    next.config = if flag = .config then value else flags.config := by
  rcases set_ok set with ⟨rfl, rfl⟩ | ⟨rfl, rfl⟩ | ⟨rfl, modules, -, rfl⟩ | ⟨switch, _, -, rfl⟩
  · rfl
  · rfl
  · rfl
  · rw [turn_config, if_neg]
    rintro rfl
    contradiction

theorem set_marker (set : flags.set flag value = .ok next) :
    next.marker = if flag = .marker then some value else flags.marker := by
  rcases set_ok set with ⟨rfl, rfl⟩ | ⟨rfl, rfl⟩ | ⟨rfl, modules, -, rfl⟩ | ⟨switch, _, -, rfl⟩
  · rfl
  · rfl
  · rfl
  · rw [turn_marker, if_neg]
    rintro rfl
    contradiction

theorem set_imports (set : flags.set flag value = .ok next) :
    (flag ≠ .imports ∧ next.imports = flags.imports) ∨
      flag = .imports ∧ ∃ modules, readModules value = .ok modules ∧
        next.imports = some (flags.imports.getD [] ++ modules) := by
  rcases set_ok set with ⟨rfl, rfl⟩ | ⟨rfl, rfl⟩ | ⟨rfl, modules, read, rfl⟩ | ⟨switch, _, -, rfl⟩
  · exact .inl ⟨by simp, rfl⟩
  · exact .inl ⟨by simp, rfl⟩
  · exact .inr ⟨rfl, modules, read, rfl⟩
  · refine .inl ⟨?_, turn_imports ..⟩
    rintro rfl
    contradiction

theorem set_isOn (set : flags.set flag value = .ok next) {other : Flag}
    (switch : other.isSwitch = true) :
    next.isOn other =
      if flag = other then (readSwitch? value).getD false else flags.isOn other := by
  rcases set_ok set with ⟨rfl, rfl⟩ | ⟨rfl, rfl⟩ | ⟨rfl, modules, -, rfl⟩ | ⟨own, setting, read, rfl⟩
  case inr.inr.inr =>
    rw [isOn_turn flags own, read]
    rfl
  all_goals
    rw [if_neg (by rintro rfl; contradiction)]
    cases other <;> rfl

theorem Reflects.set (reflects : Reflects settings flags)
    (set : flags.set flag value = .ok next) :
    Reflects (settings ++ [(flag, value)]) next where
  config := by
    rw [set_config set, valuesOf_append]
    split
    · simp
    · exact reflects.config
  marker := by
    rw [set_marker set, valuesOf_append]
    split
    · simp
    · exact reflects.marker
  imports := by
    obtain ⟨lists, read, imported⟩ := reflects.imports
    rw [valuesOf_append]
    rcases set_imports set with ⟨other, same⟩ | ⟨rfl, modules, split, added⟩
    · rw [if_neg other, same]
      exact ⟨lists, read, imported⟩
    · refine ⟨lists ++ [modules], ?_, ?_⟩
      · rw [if_pos rfl, List.mapM_append, read]
        simp only [List.mapM_cons, List.mapM_nil, split]
        rfl
      · rw [added, imported]
        cases earlier : valuesOf .imports settings with
        | nil =>
            rw [earlier] at read
            cases read
            simp
        | cons first rest => simp
  switches := by
    intro other switch
    rw [set_isOn set switch, valuesOf_append]
    split
    · simp
    · exact reflects.switches other switch

theorem Reflects.setAll {done : List (Flag × Bytes)} (reflects : Reflects done flags)
    (set : flags.setAll settings = .ok next) : Reflects (done ++ settings) next := by
  induction settings generalizing flags done with
  | nil =>
      cases set
      rwa [List.append_nil]
  | cons setting rest inductionHypothesis =>
      rw [← List.singleton_append, setAll_append, setAll_singleton] at set
      obtain ⟨reached, first, later⟩ := bind_ok_iff.mp set
      have whole := inductionHypothesis (reflects.set first) later
      rwa [List.append_assoc] at whole

theorem reflects_start : Reflects [] {} where
  config := rfl
  marker := rfl
  imports := ⟨[], rfl, rfl⟩
  switches := fun flag _ => by cases flag <;> rfl

/-- Flags may stand anywhere among positional arguments: only the order of the flags and that
of the positional arguments count.  A value is refused wherever it stands, and if none is,
the settings are taken in order. -/
theorem read_interleaved (mixed : Interleaved occurrences positionals arguments)
    (plain : ∀ argument ∈ positionals, argument.head? ≠ some 45 ∨ argument = [45]) :
    let settings := occurrences.flatMap Occurrence.settings
    read arguments = read (occurrences.flatMap Occurrence.arguments ++ positionals) ∧
      ((∃ result, read arguments = .ok result) ↔
        ∀ setting ∈ settings, accepts setting.1 setting.2 = true) ∧
      ∀ flags others, read arguments = .ok (flags, others) →
        others = positionals ∧ Reflects settings flags ∧
        (flags.marker.isSome ↔ ∃ value, (.marker, value) ∈ settings) ∧
        (flags.imports.isSome ↔ ∃ value, (.imports, value) ∈ settings) := by
  intro settings
  have mixedly := readOnto_interleaved {} mixed plain
  have inTurn := readOnto_interleaved {} (interleaved_in_turn occurrences positionals) plain
  refine ⟨mixedly.trans inTurn.symm, ?_, ?_⟩
  · rw [read, mixedly, ← setAll_ok_iff {}]
    cases setAll {} settings <;> simp [Except.map]
  · intro flags others success
    rw [read, mixedly] at success
    obtain ⟨next, set, same⟩ := map_ok_iff.mp success
    cases same
    have reflects := reflects_start.setAll set
    rw [List.nil_append] at reflects
    obtain ⟨lists, -, imported⟩ := reflects.imports
    refine ⟨rfl, reflects, ?_, ?_⟩
    · rw [reflects.marker, List.getLast?_isSome, valuesOf_ne_nil]
    · rw [imported, ← valuesOf_ne_nil]
      cases valuesOf .imports settings <;> simp

/-- Letters of two flags stand behind one dash, and the value of the second looks like a flag
itself. -/
theorem read_interleaved_letters_between_paths :
    let verbose : Lettered := ⟨.verbose, 118, rfl⟩
    let marker : Lettered := ⟨.marker, 109, rfl⟩
    let grouped : Occurrence :=
      .letters [verbose] (.awaiting marker (ascii "-q") rfl) (by decide) (.inl (by simp))
    let occurrences := [.assigned .imports (ascii "A,B"), grouped, .assigned .imports []]
    let positionals := [ascii "a", ascii "-", []]
    let arguments :=
      [ascii "a", ascii "--import=A,B", ascii "-", ascii "-vm", ascii "-q", ascii "--import=", []]
    Interleaved occurrences positionals arguments ∧
      (∀ argument ∈ positionals, argument.head? ≠ some 45 ∨ argument = [45]) ∧
      read arguments = read (occurrences.flatMap Occurrence.arguments ++ positionals) ∧
      read arguments =
        .ok ({ verbose := true, marker := some (ascii "-q"),
               imports := some [ascii "A", ascii "B"] }, positionals) := by
  intro verbose marker grouped occurrences positionals arguments
  have mixed : Interleaved occurrences positionals arguments :=
    .positional _ (.flag (.assigned .imports (ascii "A,B")) (.positional _ (.flag grouped
      (.flag (.assigned .imports []) (.positional _ .done)))))
  have plain : ∀ argument ∈ positionals, argument.head? ≠ some 45 ∨ argument = [45] := by decide
  exact ⟨mixed, plain, (read_interleaved mixed plain).1, by rfl⟩

end ImportSplice.Flags
