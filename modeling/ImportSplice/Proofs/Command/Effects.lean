import ImportSplice.Command.Run
import ImportSplice.Proofs.Files.Rollback
import ImportSplice.Proofs.Source.LineCuts

/-!
What a run of the command does to the world.  `Course` names the ways in which a run can
go; files are touched in two of them only, when a conversion is carried out or fails, and
a conversion that fails is always recognised as a failed access to a file.  So an exit
status that blames the request or nothing in particular means that no file was touched.
-/

namespace ImportSplice

theorem Exit.ofFault_ne_success (fault : Fault) : Exit.ofFault fault ≠ .success := by
  unfold Exit.ofFault
  repeat' split
  all_goals simp

theorem Exit.ofFault_fileAccess (stage : Stage) (path : Bytes) (cause : Fault) :
    Exit.ofFault (.fileAccess stage path cause) = .fileAccess := by
  simp [Exit.ofFault, Exit.transferKinds, Fault.shows]

/-- Every failure of a conversion names the stage that failed and its path. -/
theorem Injector.convert_stage {injector : Injector} {medium : Medium} {system : FileSystem}
    {inputPath outputPath : Bytes} {fault : Fault}
    (failed : (injector.convert system inputPath outputPath medium).failure = some fault) :
    ∃ stage path cause, fault = .fileAccess stage path cause := by
  unfold convert at failed
  split at failed
  · exact ⟨_, _, _, (Option.some.inj failed).symm⟩
  · split at failed
    · exact ⟨_, _, _, (Option.some.inj failed).symm⟩
    · obtain ⟨stage, path, cause, same, -⟩ := transfer_stage failed
      exact ⟨stage, path, cause, same⟩

theorem terminated_warnings (environment : Environment) :
    Terminated (Environment.warnings environment) := by
  unfold Environment.warnings
  induction Environment.unknownNames environment with
  | nil => exact .inl rfl
  | cons name rest inductionHypothesis =>
      rw [List.flatMap_cons]
      refine Terminated.append (.inr ?_) inductionHypothesis
      rw [List.getLast?_append]
      rfl

/-- The first line of a text goes at least as far as the text is unbroken. -/
theorem lines_start {start : Bytes} (nonempty : start ≠ []) (unbroken : Bytes.newline ∉ start)
    (rest : Bytes) : ∃ tail others, lines (start ++ rest) = (start ++ tail) :: others := by
  induction start with
  | nil => contradiction
  | cons byte more inductionHypothesis =>
      simp only [List.mem_cons, not_or] at unbroken
      have apart : (byte == Bytes.newline) = false := beq_eq_false_iff_ne.mpr (Ne.symm unbroken.1)
      rw [List.cons_append, lines, apart]
      by_cases last : more = []
      · subst last
        rw [List.nil_append]
        cases lines rest with
        | nil => exact ⟨[], [], rfl⟩
        | cons line others => exact ⟨line, others, rfl⟩
      · obtain ⟨tail, others, found⟩ := inductionHypothesis last unbroken.2
        rw [found]
        exact ⟨tail, others, rfl⟩

/-- A request for a text on the standard output. -/
def Flags.asksForText (flags : Flags) : Bool := flags.help || flags.version || flags.printConfig

namespace Command

/-- The warnings that a run begins with. -/
def openingWarnings (environment : Environment) (flags : Flags) : Bytes :=
  if flags.quiet then [] else environment.warnings

/-- The ways in which a run can go. -/
inductive Course (system : FileSystem) (environment : Environment) (arguments : List Bytes)
    (medium : Injector.Medium) : Result → Prop where
  /-- The arguments cannot be read. -/
  | misread {defect : FlagDefect} (unread : Flags.read arguments = .error defect) :
      Course system environment arguments medium (failed system [] defect.toFault)
  /-- A text is asked for. -/
  | shown {flags : Flags} {positional : List Bytes} {stdout stderr : Bytes}
      (read : Flags.read arguments = .ok (flags, positional)) (asked : flags.asksForText = true) :
      Course system environment arguments medium { system, exit := .success, stdout, stderr }
  /-- The request is refused before any file is touched. -/
  | refused {flags : Flags} {positional : List Bytes} {fault : Fault}
      (read : Flags.read arguments = .ok (flags, positional)) :
      Course system environment arguments medium
        (failed system (openingWarnings environment flags) fault)
  /-- The conversion fails. -/
  | broken {flags : Flags} {config : Config} {injector : Injector}
      {original inputPath outputPath : Bytes} {fault : Fault}
      (read : Flags.read arguments = .ok (flags, [original, inputPath, outputPath]))
      (plain : flags.asksForText = false)
      (resolved : Config.resolve system environment flags = .ok config)
      (made : Injector.create config.choices = .ok injector)
      (failure : (injector.convert system inputPath outputPath medium).failure = some fault) :
      Course system environment arguments medium
        (failed (injector.convert system inputPath outputPath medium).system
          (openingWarnings environment flags) fault)
  /-- The conversion is carried out. -/
  | converted {flags : Flags} {config : Config} {injector : Injector}
      {original inputPath outputPath : Bytes}
      (read : Flags.read arguments = .ok (flags, [original, inputPath, outputPath]))
      (plain : flags.asksForText = false)
      (resolved : Config.resolve system environment flags = .ok config)
      (made : Injector.create config.choices = .ok injector)
      (complete : (injector.convert system inputPath outputPath medium).failure = none) :
      Course system environment arguments medium
        { system := (injector.convert system inputPath outputPath medium).system
          exit := .success
          stderr := openingWarnings environment flags ++
            if flags.verbose then
              summary injector (injector.convert system inputPath outputPath medium).stats
                inputPath outputPath
            else [] }

theorem run_course (system : FileSystem) (environment : Environment) (arguments : List Bytes)
    (medium : Injector.Medium) :
    Course system environment arguments medium (run system environment arguments medium) := by
  unfold run
  split
  · rename_i defect unread
    exact .misread unread
  · rename_i flags positional read
    unfold execute
    by_cases helped : flags.help = true
    · rw [if_pos helped]
      exact .shown read (by simp [Flags.asksForText, helped])
    by_cases versioned : flags.version = true
    · rw [if_neg helped, if_pos versioned]
      exact .shown read (by simp [Flags.asksForText, versioned])
    rw [if_neg helped, if_neg versioned]
    dsimp only
    split
    · exact .refused read
    · rename_i config resolved
      split
      · rename_i printed
        exact .shown read (by simp [Flags.asksForText, printed])
      · rename_i unprinted
        have plain : flags.asksForText = false := by
          simp [Flags.asksForText, helped, versioned, unprinted]
        split
        · unfold convert
          split
          · exact .refused read
          · rename_i injector made
            dsimp only
            split
            · rename_i fault failure
              exact .broken read plain resolved made failure
            · rename_i complete
              exact .converted read plain resolved made complete
        · exact .refused read

theorem failed_code (system : FileSystem) (warnings : Bytes) (fault : Fault) :
    (failed system warnings fault).exit.code ≠ 0 := by
  have unsuccessful := Exit.ofFault_ne_success fault
  cases found : Exit.ofFault fault with
  | success => contradiction
  | general | usage | fileAccess => simp [failed, found, Exit.code]

/-- A run that fails says so on a line of its own. -/
theorem failed_reports (system : FileSystem) {warnings : Bytes} (ended : Terminated warnings)
    (fault : Fault) :
    ∃ line ∈ lines (failed system warnings fault).stderr, ascii "fiximports: " <+: line := by
  obtain ⟨tail, others, found⟩ := lines_start (by decide : ascii "fiximports: " ≠ [])
    (by decide) (fault.message ++ Hint.ofFault system.directoryExists fault ++ [Bytes.newline])
  refine ⟨ascii "fiximports: " ++ tail, ?_, List.prefix_append _ _⟩
  simp only [failed, report, lines_append ended, List.append_assoc] at found ⊢
  rw [found]
  simp

theorem terminated_openingWarnings (environment : Environment) (flags : Flags) :
    Terminated (openingWarnings environment flags) := by
  unfold openingWarnings
  split
  · exact .inl rfl
  · exact terminated_warnings environment

/-- How a run and its outcome belong together. -/
structure Orderly (system : FileSystem) (environment : Environment) (arguments : List Bytes)
    (medium : Injector.Medium) (result : Result) : Prop where
  /-- Files are touched only to convert one, and then the exit status is one of two. -/
  touches : result.system ≠ system → ∃ flags positional,
    Flags.read arguments = .ok (flags, positional) ∧ flags.asksForText = false ∧
      positional.length = 3 ∧ (result.exit.code = 0 ∨ result.exit.code = 3)
  /-- Every other exit status means that no file was touched. -/
  spares : result.exit.code = 1 ∨ result.exit.code = 2 → result.system = system
  /-- The standard output is for texts that were asked for. -/
  prints : result.stdout ≠ [] → result.exit.code = 0 ∧ ∃ flags positional,
    Flags.read arguments = .ok (flags, positional) ∧ flags.asksForText = true
  /-- Success without such a text is a conversion with the settings that were resolved; it
  writes nothing but warnings unless more is asked for, and nothing at all if it is to be
  quiet. -/
  converts : result.exit.code = 0 → ∃ flags positional,
    Flags.read arguments = .ok (flags, positional) ∧ (flags.asksForText = false →
      ∃ original inputPath outputPath config injector,
        positional = [original, inputPath, outputPath] ∧
        Config.resolve system environment flags = .ok config ∧
        Injector.create config.choices = .ok injector ∧
        (injector.convert system inputPath outputPath medium).failure = none ∧
        result.system = (injector.convert system inputPath outputPath medium).system ∧
        (flags.verbose = false →
          result.stderr = if flags.quiet then [] else environment.warnings))
  /-- Failure is reported. -/
  reports : result.exit.code ≠ 0 →
    ∃ line ∈ lines result.stderr, ascii "fiximports: " <+: line

theorem Course.orderly {system : FileSystem} {environment : Environment}
    {arguments : List Bytes} {medium : Injector.Medium} {result : Result}
    (course : Course system environment arguments medium result) :
    Orderly system environment arguments medium result := by
  cases course with
  | misread unread =>
      exact ⟨fun touched => absurd rfl touched, fun _ => rfl, fun printed => absurd rfl printed,
        fun success => absurd success (failed_code _ _ _), fun _ => failed_reports _ (.inl rfl) _⟩
  | shown read asked =>
      exact ⟨fun touched => absurd rfl touched, fun _ => rfl, fun _ => ⟨rfl, _, _, read, asked⟩,
        fun _ => ⟨_, _, read, by simp [asked]⟩, fun unsuccessful => absurd rfl unsuccessful⟩
  | refused read =>
      exact ⟨fun touched => absurd rfl touched, fun _ => rfl, fun printed => absurd rfl printed,
        fun success => absurd success (failed_code _ _ _),
        fun _ => failed_reports _ (terminated_openingWarnings _ _) _⟩
  | broken read plain resolved made failure =>
      obtain ⟨stage, path, cause, rfl⟩ := Injector.convert_stage failure
      have exit : (Exit.ofFault (.fileAccess stage path cause)).code = 3 := by
        rw [Exit.ofFault_fileAccess]
        rfl
      refine ⟨fun _ => ⟨_, _, read, plain, rfl, .inr exit⟩, ?_, fun printed => absurd rfl printed,
        fun success => absurd success (failed_code _ _ _),
        fun _ => failed_reports _ (terminated_openingWarnings _ _) _⟩
      simp [failed, exit]
  | converted read plain resolved made complete =>
      refine ⟨fun _ => ⟨_, _, read, plain, rfl, .inl rfl⟩, by simp [Exit.code],
        fun printed => absurd rfl printed, ?_, fun unsuccessful => absurd rfl unsuccessful⟩
      intro _
      refine ⟨_, _, read, fun _ => ⟨_, _, _, _, _, rfl, resolved, made, complete, rfl, ?_⟩⟩
      intro terse
      simp [terse, openingWarnings]

/-- Whatever the arguments, the environment and the files are, and however reading and
writing go, a run of the command is orderly. -/
theorem run_orderly (system : FileSystem) (environment : Environment) (arguments : List Bytes)
    (medium : Injector.Medium) :
    Orderly system environment arguments medium (run system environment arguments medium) :=
  (run_course system environment arguments medium).orderly

end Command

end ImportSplice
