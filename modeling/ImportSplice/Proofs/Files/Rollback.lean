import ImportSplice.Command.Convert
import ImportSplice.Proofs.Files.Staging

/-!
Failed conversions.  Before the output is created nothing is changed, and a staged
output is taken away again wherever the conversion fails after that, so a failure
leaves the file system as it was: every entry with its content and its mode, and no
staged file.
-/

namespace ImportSplice.Injector

open Output

variable {injector : Injector} {medium : Medium} {before created : FileSystem}
  {file : OpenFile} {output : Output} {inputPath outputPath : Bytes}

/-- Whatever reading and writing do, a staged conversion that fails is undone. -/
theorem transfer_restores {location : Location} {mode : Nat}
    (staging : Staging before created location [] mode output) (staged : output.target.isSome)
    (failed : (injector.transfer medium created file output inputPath outputPath).failure.isSome) :
    ∃ next, (injector.transfer medium created file output inputPath outputPath).system =
      { before with next } := by
  let accepted := (injector.inject (medium.source created file) (medium.sink output.file)
    inputPath).sink.accepted.toList
  obtain ⟨newMode, written⟩ := staging.write accepted
  have target : (Output.write created output accepted).1.output.target.isSome := staged
  unfold transfer at failed ⊢
  simp only [abort_commit] at failed ⊢
  split
  · exact ⟨_, written.abort target⟩
  · rename_i complete
    rw [complete] at failed
    exact ⟨_, written.commit target (by simpa using failed)⟩

theorem transfer_stage {fault : Fault}
    (failed : (injector.transfer medium created file output inputPath outputPath).failure =
      some fault) :
    ∃ stage path cause, fault = .fileAccess stage path cause ∧
      stage ≠ .openInput ∧ stage ≠ .createOutput := by
  unfold transfer at failed
  dsimp only at failed
  split at failed
  · rename_i cause broken
    by_cases reading : cause.shows .readInput = true
    · exact ⟨.readInput, inputPath, cause, by simpa [reading] using failed.symm, by simp, by simp⟩
    · exact ⟨.writeOutput, outputPath, cause, by simpa [reading] using failed.symm, by simp,
        by simp⟩
  · obtain ⟨cause, -, same⟩ := Option.map_eq_some_iff.mp failed
    exact ⟨.commitOutput, outputPath, cause, same.symm, by simp, by simp⟩

/-- A conversion that fails while it opens the input or creates the output leaves every
entry as it was, and so does one whose output is staged wherever it fails after that: no
staged file is left, and only the next serial number may differ. -/
theorem convert_failure_restores {fault : Fault}
    (failed : (injector.convert before inputPath outputPath medium).failure = some fault) :
    (∀ path, fault.failedStage? = some (.openInput, path) ∨
        fault.failedStage? = some (.createOutput, path) →
      ∃ next, (injector.convert before inputPath outputPath medium).system =
        { before with next }) ∧
    (∀ created output,
      Output.create before outputPath newFileMode medium.chance = ⟨created, .ok output⟩ →
      output.target.isSome →
      ∃ next, (injector.convert before inputPath outputPath medium).system =
        { before with next }) := by
  unfold convert at failed ⊢
  cases opened : before.openForReading inputPath with
  | error refusal =>
      exact ⟨fun _ _ => ⟨before.next, rfl⟩, fun _ _ _ _ => ⟨before.next, rfl⟩⟩
  | ok file =>
      cases made : Output.create before outputPath newFileMode medium.chance with
      | mk left result =>
          simp only [opened, made] at failed ⊢
          cases result with
          | error cause =>
              exact ⟨fun _ _ => create_restores made, fun _ _ same => by cases same⟩
          | ok output =>
              constructor
              · intro path early
                obtain ⟨stage, place, cause, rfl, notOpen, notCreate⟩ := transfer_stage failed
                simp [Fault.failedStage?, notOpen, notCreate] at early
              · intro created chosen same staged
                cases same
                obtain ⟨location, mode, staging⟩ := create_staging made staged
                exact transfer_restores staging staged (by rw [failed]; rfl)

/-- The output is read-only.  First the mode of the staged file is refused, and then the
output itself; the other time the staged file takes three bytes and no more. -/
theorem convert_failure_restores_read_only_output :
    let before : FileSystem :=
      { entries := [([], .directory 0o755), ([ascii "in"], .file 0 (ascii "x") 0o644),
          ([ascii "out"], .file 1 (ascii "previous") 0o4444)] }
    let unmoded : Medium := { chance := { refusesMode := some .notPermitted } }
    let filled : Medium :=
      { sink := fun file =>
          { room := some 3, overrun := .fails (.call FileSystem.writeCall file.path .noSpace) },
        chance := { draws := fun _ => 4294967295 } }
    let convert (medium : Medium) := ({} : Injector).convert before (ascii "/in") (ascii "/out") medium
    (convert unmoded).failure = some (.fileAccess .createOutput (ascii "/out")
        (.call FileSystem.openCall (ascii "/out") .accessDenied)) ∧
      (∃ next, (convert unmoded).system = { before with next }) ∧
      (convert filled).failure = some (.fileAccess .writeOutput (ascii "/out") (.cite .writeOutput
        (.call FileSystem.writeCall (ascii "/.out.tmp-4294967295") .noSpace))) ∧
      ∃ next, (convert filled).system = { before with next } := by
  intro before unmoded filled convert
  have uncreated : (convert unmoded).failure = some (.fileAccess .createOutput (ascii "/out")
      (.call FileSystem.openCall (ascii "/out") .accessDenied)) := by decide +kernel
  have unwritten : (convert filled).failure = some (.fileAccess .writeOutput (ascii "/out")
      (.cite .writeOutput
        (.call FileSystem.writeCall (ascii "/.out.tmp-4294967295") .noSpace))) := by decide +kernel
  have chosen : ((Output.create before (ascii "/out") newFileMode filled.chance).result.toOption.map
      fun output => output.target.isSome) = some true := by decide +kernel
  refine ⟨uncreated, (convert_failure_restores uncreated).1 _ (.inr rfl), unwritten, ?_⟩
  cases made : Output.create before (ascii "/out") newFileMode filled.chance with
  | mk created result =>
      rw [made] at chosen
      cases result with
      | error fault => contradiction
      | ok output =>
          have staged : output.target.isSome := by simpa [Except.toOption] using chosen
          exact (convert_failure_restores unwritten).2 created output made staged

end ImportSplice.Injector
