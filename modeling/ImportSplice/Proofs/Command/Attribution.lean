import ImportSplice.Proofs.Command.Effects
import ImportSplice.Proofs.Files.Aliasing

/-!
What a failed conversion is blamed on.  `Output.Halts` and `Injector.Halts` follow the
system calls of a conversion up to the one that is refused and stops it.  Of the kinds of
refusal the reported cause shows that of this call alone, under the citation of a failed
read or write, so the stage can be told from the kinds that are shown.
-/

namespace ImportSplice

theorem Refusal.kind?_ne_transfer (refusal : Refusal) :
    ∀ kind ∈ Exit.transferKinds, refusal.kind? ≠ some kind := by
  cases refusal <;> decide

/-- The one of the two paths of a conversion that a stage works on. -/
def Stage.pathOf (inputPath outputPath : Bytes) : Stage → Bytes
  | .openInput | .readInput => inputPath
  | _ => outputPath

namespace Output

open FileSystem

section

variable (system : FileSystem) (path : Bytes) (mode : Nat) (chance : Chance)

/-- Names are drawn until one is refused for another reason than that it is taken, or until
none may be drawn any more. -/
inductive DrawingHalts : (left attempt : Nat) → Fault → Refusal → Prop where
  | exhausted {attempt} :
      DrawingHalts 0 attempt (.call temporaryCall (stagedPattern path) .taken) .taken
  | refused {left attempt refusal}
      (refused : system.createNew (stagedPath path (chance.draws attempt).toNat) stagedMode =
        .error refusal) (known : refusal ≠ .alreadyExists) :
      DrawingHalts (left + 1) attempt
        (.call openCall (stagedPath path (chance.draws attempt).toNat) refusal) refusal
  | taken {left attempt fault refusal}
      (taken : system.createNew (stagedPath path (chance.draws attempt).toNat) stagedMode =
        .error .alreadyExists)
      (later : DrawingHalts left (attempt + 1) fault refusal) :
      DrawingHalts (left + 1) attempt fault refusal

/-- An output is not staged because no file is created for it, or because the file does not
get its mode. -/
inductive StagingHalts : Fault → Refusal → Prop where
  | undrawn {fault refusal} (drawing : DrawingHalts system path chance maxDraws 0 fault refusal) :
      StagingHalts fault refusal
  | unmoded {created file refusal}
      (drawn : createTemporary system path chance.draws maxDraws 0 = .ok (created, file))
      (refused : chance.refusesMode = some refusal) :
      StagingHalts (.within (ascii "setting permissions") (.call modeCall file.path refusal))
        refusal

/-- The calls that the creation of an output makes, up to the one that stops it. -/
inductive Halts : Fault → Refusal → Prop where
  | unseen {refusal} (refused : system.find .kept path = .error refusal)
      (known : refusal ≠ .noEntry) : Halts (.call statusCall path refusal) refusal
  | unstaged {fault refusal} (absent : system.find .kept path = .error .noEntry)
      (staging : StagingHalts system path chance fault refusal) : Halts fault refusal
  | unreplaced {location serial content old fault refusal}
      (found : system.find .kept path = .ok (location, .file serial content old))
      (staging : StagingHalts system path chance fault refusal)
      (allowed : refusal.kind? ≠ some .permission) : Halts fault refusal
  | unopened {location entry refusal} (found : system.find .kept path = .ok (location, entry))
      (noFile : ∀ serial content old, entry ≠ .file serial content old)
      (refused : system.openForWriting path mode = .error refusal) :
      Halts (.call openCall path refusal) refusal
  -- Staging takes a permission that is not there, and the file itself cannot be opened either.
  | unwritable {location serial content old fault denial refusal}
      (found : system.find .kept path = .ok (location, .file serial content old))
      (staging : StagingHalts system path chance fault denial)
      (denied : denial.kind? = some .permission)
      (refused : system.openForWriting path (Mode.permissions old) = .error refusal) :
      Halts (.call openCall path refusal) refusal

end

variable {system created : FileSystem} {path : Bytes} {mode : Nat} {fault : Fault}
  {output : Output} {chance : Chance} {refusal : Refusal}

theorem DrawingHalts.call {left attempt : Nat}
    (drawing : DrawingHalts system path chance left attempt fault refusal) :
    ∃ operation named, fault = .call operation named refusal := by
  induction drawing with
  | exhausted | refused => exact ⟨_, _, rfl⟩
  | taken _ _ inductionHypothesis => exact inductionHypothesis

theorem StagingHalts.call_cases (staging : StagingHalts system path chance fault refusal) :
    ∃ operation named, fault = .call operation named refusal ∨
      fault = .within (ascii "setting permissions") (.call operation named refusal) := by
  cases staging with
  | undrawn drawing =>
      obtain ⟨operation, named, same⟩ := drawing.call
      exact ⟨operation, named, .inl same⟩
  | unmoded => exact ⟨_, _, .inr rfl⟩

theorem StagingHalts.shows_iff (staging : StagingHalts system path chance fault refusal)
    (kind : Kind) : fault.shows kind = true ↔ refusal.kind? = some kind := by
  obtain ⟨operation, named, rfl | rfl⟩ := staging.call_cases <;> simp [Fault.shows]

theorem Halts.call_cases (halts : Halts system path mode chance fault refusal) :
    ∃ operation named, fault = .call operation named refusal ∨
      fault = .within (ascii "setting permissions") (.call operation named refusal) := by
  cases halts with
  | unseen | unopened | unwritable => exact ⟨_, _, .inl rfl⟩
  | unstaged _ staging | unreplaced _ staging => exact staging.call_cases

theorem createTemporary_halts {left attempt : Nat}
    (refused : createTemporary system path chance.draws left attempt = .error fault) :
    ∃ refusal, DrawingHalts system path chance left attempt fault refusal := by
  induction left generalizing attempt with
  | zero =>
      cases refused
      exact ⟨_, .exhausted⟩
  | succ left inductionHypothesis =>
      rw [createTemporary] at refused
      split at refused
      · contradiction
      · rename_i taken
        obtain ⟨refusal, later⟩ := inductionHypothesis refused
        exact ⟨refusal, .taken taken later⟩
      · rename_i refusal known last
        cases refused
        exact ⟨refusal, .refused last known⟩

theorem createStaged_halts
    (refused : createStaged system path mode chance = ⟨created, .error fault⟩) :
    ∃ refusal, StagingHalts system path chance fault refusal := by
  cases createStaged_cases refused with
  | undrawn drawn =>
      obtain ⟨refusal, drawing⟩ := createTemporary_halts drawn
      exact ⟨refusal, .undrawn drawing⟩
  | unmoded drawn denied => exact ⟨_, .unmoded drawn denied⟩

theorem createDirect_error
    (refused : createDirect system path mode = ⟨created, .error fault⟩) :
    ∃ refusal, system.openForWriting path mode = .error refusal ∧
      fault = .call openCall path refusal := by
  unfold createDirect at refused
  split at refused
  · cases refused
  · rename_i refusal last
    cases refused
    exact ⟨refusal, last, rfl⟩

theorem create_halts (refused : create system path mode chance = ⟨created, .error fault⟩) :
    ∃ refusal, Halts system path mode chance fault refusal := by
  cases create_cases refused with
  | unseen last known => exact ⟨_, .unseen last known⟩
  | fresh absent started =>
      obtain ⟨refusal, staging⟩ := createStaged_halts started
      exact ⟨refusal, .unstaged absent staging⟩
  | special found noFile opened =>
      obtain ⟨refusal, last, rfl⟩ := createDirect_error opened
      exact ⟨refusal, .unopened found noFile last⟩
  | unreplaced found started allowed =>
      obtain ⟨refusal, staging⟩ := createStaged_halts started
      refine ⟨refusal, .unreplaced found staging fun denied => ?_⟩
      rw [(staging.shows_iff _).mpr denied] at allowed
      contradiction
  | rewritten found started denied opened =>
      obtain ⟨denial, staging⟩ := createStaged_halts started
      obtain ⟨refusal, last, rfl⟩ := createDirect_error opened
      exact ⟨refusal,
        .unwritable found staging ((staging.shows_iff _).mp denied) (openForWriting_next last)⟩

theorem create_ready (made : create system path mode chance = ⟨created, .ok output⟩) :
    output.file.isOpen = true ∧ output.finished = false ∧
      (output.target = none ∨ output.target = some path) := by
  cases chosen : output.target with
  | none =>
      obtain ⟨next, file, wanted, opened, rfl⟩ := create_direct made chosen
      exact ⟨(openForWriting_ok opened).1, rfl, .inl rfl⟩
  | some target =>
      have staged : output.target.isSome := by
        rw [chosen]
        rfl
      obtain ⟨location, wanted, staging⟩ := create_staging made staged
      refine ⟨staging.isOpen, staging.unfinished, .inr ?_⟩
      rw [← chosen]
      rcases create_staged made staged with ⟨_, _, _, _, -, started⟩ | ⟨-, started⟩
      all_goals exact (createStaged_staging started).1

theorem write_ready (system : FileSystem) (output : Output) (bytes : Bytes) :
    (write system output bytes).1.output.file.isOpen = output.file.isOpen ∧
      (write system output bytes).1.output.file.path = output.file.path := by
  unfold write FileSystem.write
  dsimp only
  split
  · exact ⟨rfl, rfl⟩
  · split <;> exact ⟨rfl, rfl⟩

/-- An open output fails to be committed only if its staged file cannot take the path. -/
theorem commit_failure (isOpen : output.file.isOpen = true) (unfinished : output.finished = false)
    (failed : (commit system output).failure = some fault) :
    ∃ target refusal, output.target = some target ∧
      system.rename output.file.path target = .error refusal ∧
      fault = .within (ascii "replacing " ++ target) (.rename output.file.path target refusal) := by
  have closing : output.file.close = ({ output.file with isOpen := false }, none) := by
    rw [OpenFile.close, if_pos isOpen]
  unfold commit at failed
  simp only [unfinished, closing, Bool.false_eq_true, if_false] at failed
  split at failed
  · contradiction
  · contradiction
  · rename_i target chosen _
    split at failed
    · contradiction
    · rename_i refusal refused
      exact ⟨target, refusal, chosen, refused, (Option.some.inj failed).symm⟩

end Output

namespace Injector

open FileSystem

/-- A medium that fails only where a system call is refused, and says which. -/
structure Medium.FailsByCalls (medium : Medium) : Prop where
  source : ∀ system file cause, (medium.source system file).ending = .failed cause →
    ∃ operation path refusal, cause = .call operation path refusal
  sink : ∀ file room, (medium.sink file).room = some room →
    ∃ operation path refusal, (medium.sink file).overrun = .fails (.call operation path refusal)

theorem failsByCalls_sound : Medium.FailsByCalls {} where
  source := by
    intro system file cause failed
    change (sourceOf system file).ending = _ at failed
    unfold sourceOf readAll at failed
    split at failed
    · contradiction
    · rename_i fault refused
      cases failed
      split at refused
      · contradiction
      · cases refused
        exact ⟨_, _, _, rfl⟩
      · contradiction
      · cases refused
        exact ⟨_, _, _, rfl⟩
  sink := by
    intro file room limited
    change (sinkOf file).room = _ at limited
    change ∃ operation path refusal, (sinkOf file).overrun = _
    unfold sinkOf at limited ⊢
    split at limited
    · exact ⟨_, _, _, rfl⟩
    · contradiction

def copy (injector : Injector) (medium : Medium) (created : FileSystem) (file : OpenFile)
    (output : Output) (inputPath : Bytes) : Outcome :=
  injector.inject (medium.source created file) (medium.sink output.file) inputPath

def delivered (created : FileSystem) (output : Output) (outcome : Outcome) : Output.Step :=
  (Output.write created output outcome.sink.accepted.toList).1

structure Underway (medium : Medium) (system : FileSystem) (inputPath outputPath : Bytes)
    (file : OpenFile) (created : FileSystem) (output : Output) : Prop where
  opened : system.openForReading inputPath = .ok file
  made : Output.create system outputPath newFileMode medium.chance = ⟨created, .ok output⟩

section

variable (injector : Injector) (medium : Medium) (system : FileSystem)
  (inputPath outputPath : Bytes)

/-- The system call that stops a conversion: the stage it belongs to, the cause that is
reported and why the call was refused. -/
inductive Halts : Stage → Fault → Refusal → Prop where
  | unopened {refusal} (refused : system.openForReading inputPath = .error refusal) :
      Halts .openInput (.call openCall inputPath refusal) refusal
  | uncreated {file left cause refusal} (opened : system.openForReading inputPath = .ok file)
      (refused : Output.create system outputPath newFileMode medium.chance =
        ⟨left, .error cause⟩)
      (halts : Output.Halts system outputPath newFileMode medium.chance cause refusal) :
      Halts .createOutput cause refusal
  | unread {file created output context operation path refusal}
      (underway : Underway medium system inputPath outputPath file created output)
      (refused : (medium.source created file).ending = .failed (.call operation path refusal))
      (broken : (injector.copy medium created file output inputPath).failure =
        some (.cite .readInput (.within context (.call operation path refusal)))) :
      Halts .readInput (.cite .readInput (.within context (.call operation path refusal))) refusal
  | unwritten {file created output operation path refusal}
      (underway : Underway medium system inputPath outputPath file created output)
      (refused : (medium.sink output.file).overrun = .fails (.call operation path refusal))
      (broken : (injector.copy medium created file output inputPath).failure =
        some (.cite .writeOutput (.call operation path refusal))) :
      Halts .writeOutput (.cite .writeOutput (.call operation path refusal)) refusal
  | uncommitted {file created output cause refusal}
      (underway : Underway medium system inputPath outputPath file created output)
      (complete : (injector.copy medium created file output inputPath).failure = none)
      (failed :
        let written := delivered created output (injector.copy medium created file output inputPath)
        (Output.commit written.system written.output).failure = some cause ∧
          cause = .within (ascii "replacing " ++ outputPath)
            (.rename output.file.path outputPath refusal) ∧
          written.system.rename output.file.path outputPath = .error refusal) :
      Halts .commitOutput cause refusal

/-- A conversion that copied everything and could not commit its output. -/
def CommitFails : Prop :=
  ∃ file created output, Underway medium system inputPath outputPath file created output ∧
    (injector.copy medium created file output inputPath).failure = none ∧
    let written := delivered created output (injector.copy medium created file output inputPath)
    (Output.commit written.system written.output).failure.isSome

/-- A fault that says where a conversion failed and why: its stage is the one that failed,
its path the one that this stage works on, and what can be recognised of the system's
refusal is what can be recognised of the call that stopped the conversion. -/
structure Blames (fault : Fault) (stage : Stage) (path : Bytes) (refusal : Refusal) : Prop where
  recognised : fault.shows .fileAccess = true
  exit : (Exit.ofFault fault).code = 3
  opening : stage = .openInput ↔ ∃ reason, system.openForReading inputPath = .error reason
  creating : stage = .createOutput ↔ ∃ file reason, system.openForReading inputPath = .ok file ∧
    (Output.create system outputPath newFileMode medium.chance).result = .error reason
  reading : stage = .readInput ↔ fault.shows .readInput = true
  writing : stage = .writeOutput ↔ fault.shows .writeOutput = true
  committing : stage = .commitOutput ↔ CommitFails injector medium system inputPath outputPath
  place : path = stage.pathOf inputPath outputPath
  stopped : ∃ cause, fault = .fileAccess stage path cause ∧
    Halts injector medium system inputPath outputPath stage cause refusal
  visible : ∀ kind ∈ [Kind.notExist, .permission, .exist],
    (fault.shows kind = true ↔ refusal.kind? = some kind)

end

variable {injector : Injector} {medium : Medium} {system created : FileSystem}
  {file : OpenFile} {output : Output} {inputPath outputPath : Bytes} {stage : Stage}
  {fault cause : Fault} {refusal : Refusal}

/-- A cause shows what the refused call shows, and the citation of its stage. -/
theorem Halts.shows_iff
    (halts : Halts injector medium system inputPath outputPath stage cause refusal) (kind : Kind) :
    cause.shows kind = true ↔ refusal.kind? = some kind ∨
      stage = .readInput ∧ kind = .readInput ∨ stage = .writeOutput ∧ kind = .writeOutput := by
  cases halts with
  | unopened => simp [Fault.shows]
  | uncreated _ _ created =>
      obtain ⟨operation, named, rfl | rfl⟩ := created.call_cases <;> simp [Fault.shows]
  | unread | unwritten =>
      simp only [Fault.shows, Bool.or_eq_true, beq_iff_eq]
      grind
  | uncommitted _ _ failed =>
      obtain ⟨-, rfl, -⟩ := failed
      simp [Fault.shows]

theorem Underway.commit_failure
    (underway : Underway medium system inputPath outputPath file created output) (outcome : Outcome)
    (failed : (Output.commit (delivered created output outcome).system
      (delivered created output outcome).output).failure = some cause) :
    ∃ refusal, (delivered created output outcome).system.rename output.file.path outputPath =
        .error refusal ∧
      cause = .within (ascii "replacing " ++ outputPath)
        (.rename output.file.path outputPath refusal) := by
  obtain ⟨isOpen, unfinished, target⟩ := Output.create_ready underway.made
  obtain ⟨stillOpen, samePath⟩ := Output.write_ready created output outcome.sink.accepted.toList
  obtain ⟨goal, refusal, chosen, refused, same⟩ :=
    Output.commit_failure (stillOpen.trans isOpen) unfinished failed
  -- Writing leaves the target alone, and a new output has no target but its own path.
  have staged : output.target = some goal := chosen
  have reached : goal = outputPath := by
    rcases target with direct | own
    · simp [direct] at staged
    · exact Option.some.inj (staged.symm.trans own)
  subst reached
  rw [samePath] at refused same
  exact ⟨refusal, refused, same⟩

theorem transfer_halts (byCalls : medium.FailsByCalls)
    (underway : Underway medium system inputPath outputPath file created output)
    (failed : (injector.transfer medium created file output inputPath outputPath).failure =
      some fault) :
    ∃ stage cause refusal, Halts injector medium system inputPath outputPath stage cause refusal ∧
      fault = .fileAccess stage (stage.pathOf inputPath outputPath) cause := by
  unfold transfer at failed
  dsimp only at failed
  split at failed
  · rename_i cause broken
    rcases inject_failure broken with ⟨rfl, room, limited⟩ | ⟨reason, ended, rfl⟩
    · obtain ⟨operation, path, refusal, overrun⟩ := byCalls.sink output.file room limited
      simp only [Sink.complaint, overrun] at broken failed
      refine ⟨_, _, refusal, .unwritten underway overrun broken, ?_⟩
      simpa [Fault.shows, refusal.kind?_ne_transfer .readInput (by decide), Stage.pathOf]
        using failed.symm
    · obtain ⟨operation, path, refusal, rfl⟩ := byCalls.source created file reason ended
      refine ⟨_, _, refusal, .unread underway ended broken, ?_⟩
      simpa [Fault.shows, Stage.pathOf] using failed.symm
  · rename_i complete
    obtain ⟨cause, uncommitted, same⟩ := Option.map_eq_some_iff.mp failed
    obtain ⟨refusal, refused, rfl⟩ := underway.commit_failure
      (injector.copy medium created file output inputPath) uncommitted
    exact ⟨_, _, refusal, .uncommitted underway complete ⟨uncommitted, rfl, refused⟩, same.symm⟩

theorem convert_halts (byCalls : medium.FailsByCalls)
    (failed : (injector.convert system inputPath outputPath medium).failure = some fault) :
    ∃ stage cause refusal, Halts injector medium system inputPath outputPath stage cause refusal ∧
      fault = .fileAccess stage (stage.pathOf inputPath outputPath) cause := by
  unfold convert at failed
  split at failed
  · rename_i refusal refused
    exact ⟨_, _, refusal, .unopened refused, (Option.some.inj failed).symm⟩
  · rename_i file opened
    split at failed
    · rename_i cause refused
      obtain ⟨refusal, halts⟩ := Output.create_halts refused
      exact ⟨_, _, refusal, .uncreated opened refused halts, (Option.some.inj failed).symm⟩
    · rename_i created output made
      exact transfer_halts byCalls ⟨opened, made⟩ failed

theorem Halts.opening
    (halts : Halts injector medium system inputPath outputPath stage cause refusal) :
    stage = .openInput ↔ ∃ reason, system.openForReading inputPath = .error reason := by
  cases halts with
  | unopened refused => simp [refused]
  | uncreated opened => simp [opened]
  | unread underway | unwritten underway | uncommitted underway => simp [underway.opened]

theorem Halts.creating
    (halts : Halts injector medium system inputPath outputPath stage cause refusal) :
    stage = .createOutput ↔ ∃ file reason, system.openForReading inputPath = .ok file ∧
      (Output.create system outputPath newFileMode medium.chance).result = .error reason := by
  cases halts with
  | unopened refused => simp [refused]
  | uncreated opened refused => simp [opened, refused]
  | unread underway | unwritten underway | uncommitted underway => simp [underway.made]

theorem Underway.unique {other : OpenFile} {otherCreated : FileSystem} {otherOutput : Output}
    (underway : Underway medium system inputPath outputPath file created output)
    (again : Underway medium system inputPath outputPath other otherCreated otherOutput) :
    other = file ∧ otherCreated = created ∧ otherOutput = output := by
  cases again.opened.symm.trans underway.opened
  cases again.made.symm.trans underway.made
  exact ⟨rfl, rfl, rfl⟩

theorem Halts.committing
    (halts : Halts injector medium system inputPath outputPath stage cause refusal) :
    stage = .commitOutput ↔ CommitFails injector medium system inputPath outputPath := by
  cases halts with
  | unopened refused =>
      refine ⟨by simp, fun ⟨_, _, _, underway, _⟩ => ?_⟩
      cases refused.symm.trans underway.opened
  | uncreated opened refused =>
      refine ⟨by simp, fun ⟨_, _, _, underway, _⟩ => ?_⟩
      cases refused.symm.trans underway.made
  | unread underway _ broken | unwritten underway _ broken =>
      refine ⟨by simp, fun ⟨_, _, _, again, complete, _⟩ => ?_⟩
      obtain ⟨rfl, rfl, rfl⟩ := underway.unique again
      simp [broken] at complete
  | uncommitted underway complete failed =>
      exact ⟨fun _ => ⟨_, _, _, underway, complete, by simp [failed.1]⟩, fun _ => rfl⟩

/-- Every failure of a conversion is blamed on the call that stopped it. -/
theorem convert_blames_stopping_call (byCalls : medium.FailsByCalls)
    (failed : (injector.convert system inputPath outputPath medium).failure = some fault) :
    ∃ stage path refusal,
      Blames injector medium system inputPath outputPath fault stage path refusal := by
  obtain ⟨stage, cause, refusal, halts, rfl⟩ := convert_halts byCalls failed
  have shown : ∀ kind, kind ≠ .fileAccess →
      ((Fault.fileAccess stage (stage.pathOf inputPath outputPath) cause).shows kind = true ↔
        cause.shows kind = true) := by
    intro kind other
    simp [Fault.shows, other]
  refine ⟨stage, stage.pathOf inputPath outputPath, refusal, ?_⟩
  exact {
    recognised := by simp [Fault.shows]
    exit := by rw [Exit.ofFault_fileAccess]; rfl
    opening := halts.opening
    creating := halts.creating
    reading := by
      rw [shown _ (by simp), halts.shows_iff]
      simp [refusal.kind?_ne_transfer .readInput (by decide)]
    writing := by
      rw [shown _ (by simp), halts.shows_iff]
      simp [refusal.kind?_ne_transfer .writeOutput (by decide)]
    committing := halts.committing
    place := rfl
    stopped := ⟨cause, rfl, halts⟩
    visible := by
      intro kind member
      have other : kind ≠ .fileAccess ∧ kind ≠ .readInput ∧ kind ≠ .writeOutput := by
        revert kind
        decide
      rw [shown kind other.1, halts.shows_iff]
      simp [other] }

/-- The directory takes no new name, so the output is opened itself, and it is read-only. -/
theorem convert_blames_read_only_output :
    let before : FileSystem :=
      { entries := [([], .directory 0o555), ([ascii "in"], .file 0 (ascii "x") 0o644),
          ([ascii "out"], .file 1 (ascii "previous") 0o444)] }
    let fault : Fault := .fileAccess .createOutput (ascii "/out")
      (.call FileSystem.openCall (ascii "/out") .accessDenied)
    (({} : Injector).convert before (ascii "/in") (ascii "/out")).failure = some fault ∧
      Blames {} {} before (ascii "/in") (ascii "/out") fault .createOutput (ascii "/out")
        .accessDenied := by
  intro before fault
  have failed : (({} : Injector).convert before (ascii "/in") (ascii "/out")).failure =
      some fault := by decide +kernel
  obtain ⟨stage, path, refusal, blames⟩ := convert_blames_stopping_call failsByCalls_sound failed
  obtain ⟨cause, same, halts⟩ := blames.stopped
  obtain ⟨rfl, rfl, rfl⟩ := Fault.fileAccess.injEq .. ▸ same
  have denied : refusal = .accessDenied := by
    cases halts with
    | uncreated _ _ created =>
        obtain ⟨_, _, same | same⟩ := created.call_cases <;> cases same
        rfl
  subst denied
  exact ⟨failed, blames⟩

end Injector

end ImportSplice
