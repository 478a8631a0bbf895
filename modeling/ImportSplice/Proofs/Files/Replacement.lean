import Mathlib.Control.Monad.Basic
import ImportSplice.Command.Convert
import ImportSplice.Proofs.Files.Beside
import ImportSplice.Proofs.Stream.Truncation

/-!
Conversions whose output is staged.  The input was opened before, and the staged file is
at a location that was free, so the input is read as it was, even if it is the output
itself.  A commit that succeeds then changes one entry, that of the output.
-/

namespace ImportSplice

namespace Mode

theorem afterWrite_bits {mode : Nat} (small : mode < 512) (bytes : Bytes) :
    afterWrite (bits mode) bytes = mode := by
  have whole : bits mode = mode := by
    rw [bits]
    omega
  have noOwner : mode / 2048 = 0 := by omega
  have noGroup : mode / 1024 = 0 := by omega
  rw [afterWrite, whole, afterChange, noOwner, noGroup]
  simp

theorem permissions_lt (mode : Nat) : permissions mode < 512 := by
  rw [permissions]
  omega

end Mode

/-- A place where a file may be put: a free name, or the place of a file. -/
def Place.TakesFile : Place → Prop
  | .free _ => True
  | .taken _ (.file _ _ _) => True
  | .taken _ _ => False

theorem Place.TakesFile.free_or_file {place : Place} (takes : place.TakesFile) :
    (∃ location, place = .free location) ∨
      ∃ location serial content mode, place = .taken location (.file serial content mode) := by
  cases place with
  | free location => exact .inl ⟨location, rfl⟩
  | taken location entry =>
      cases entry with
      | file serial content mode => exact .inr ⟨location, serial, content, mode, rfl⟩
      | directory mode => exact absurd takes id
      | link target => exact absurd takes id
      | device kind => exact absurd takes id

namespace FileSystem

/-- The location of the entry that a path denotes, whether it is there or not. -/
def denoted? (system : FileSystem) (path : Bytes) : Option Location :=
  match system.resolve .kept path with
  | .ok place => some place.location
  | .error _ => none

/-- Opening a path and reading it to its end gives a content. -/
def Holds (system : FileSystem) (path content : Bytes) : Prop :=
  ∃ file, system.openForReading path = .ok file ∧ system.readAll file = .ok content

variable {before after : FileSystem} {path : Bytes} {file : OpenFile}

theorem openForReading_found {location : Location} {serial : Nat}
    (opened : before.openForReading path = .ok file)
    (channel : file.channel = .file location serial) :
    ∃ content mode, before.find .followed path = .ok (location, .file serial content mode) := by
  unfold openForReading at opened
  split at opened
  · contradiction
  · rename_i found
    split at opened
    · cases opened
      cases channel
      exact ⟨_, _, found⟩
    · contradiction
  · split at opened
    · cases opened
      contradiction
    · contradiction
  · cases opened
    contradiction
  · contradiction
  · contradiction

theorem find_found {last : LastName} {location : Location} {entry : Entry}
    (found : before.find last path = .ok (location, entry)) :
    before.resolve last path = .ok (.taken location entry) ∧
      before.lookup? location = some entry := by
  unfold find at found
  split at found
  · rename_i resolved
    cases found
    exact ⟨resolved, (reaches_of_resolve resolved).found⟩
  · contradiction
  · contradiction

theorem Holds.eq_of_find {location : Location} {serial mode : Nat} {content held : Bytes}
    (holds : before.Holds path content)
    (found : before.find .followed path = .ok (location, .file serial held mode)) :
    content = held := by
  obtain ⟨file, opened, read⟩ := holds
  unfold openForReading at opened
  rw [found] at opened
  dsimp only at opened
  split at opened
  · cases opened
    simpa [readAll, FileSystem.content, (find_found found).2] using read.symm
  · contradiction

theorem readAll_congr (same : ∀ location serial, file.channel = .file location serial →
      after.lookup? location = before.lookup? location) :
    after.readAll file = before.readAll file := by
  unfold readAll
  split
  · rename_i location serial channel
    rw [content, same location serial channel]
    rfl
  · rfl
  · rfl
  · rfl

end FileSystem

namespace Output

open FileSystem

/-- A staged file that is written and committed takes the place that its path leads to, and
every other entry is as it was before the file was staged. -/
theorem staged_committed {before created : FileSystem} {output : Output} {path bytes : Bytes}
    {mode : Nat} {chance : Chance}
    (made : createStaged before path mode chance = ⟨created, .ok output⟩)
    (succeeded :
      let written := (Output.write created output bytes).1
      (Output.commit written.system written.output).failure = none) :
    let written := (Output.write created output bytes).1
    let after := (Output.commit written.system written.output).system
    ∃ place serial, before.resolve .kept path = .ok place ∧
      after.lookup? place.location = some (.file serial bytes (Mode.afterWrite (Mode.bits mode) bytes)) ∧
      (∀ other, other ≠ place.location → after.lookup? other = before.lookup? other) ∧
      (∀ location serial, output.file.channel = .file location serial →
        after.lookup? location = none) ∧
      after.working = before.working := by
  obtain ⟨directory, number, serial, berth, beside, opened, fills⟩ := createStaged_beside made
  intro written after
  have writing := beside.write_eq opened bytes
  have holding : Beside written.system written.output path directory number serial bytes
      (Mode.afterWrite (Mode.bits mode) bytes) := beside.write opened bytes
  have stored : written.system = created.store (stagedAt path directory number) serial 0 bytes :=
    congrArg (fun result => result.1.system) writing
  have elsewhere : ∀ other, other ≠ stagedAt path directory number →
      written.system.lookup? other = before.lookup? other := by
    intro other apart
    rw [← fills.others other apart]
    exact beside.write_others opened bytes apart
  rcases holding.commit_cases with ⟨-, ⟨-, place, nonempty, stepped, -, result⟩ | ⟨failed, -⟩⟩
  · have apart := holding.berth.apart stepped
    have arrived : after = (written.system.erase (stagedAt path directory number)).insert
        place.location (.file serial bytes (Mode.afterWrite (Mode.bits mode) bytes)) := result
    have others : ∀ other, other ≠ place.location → after.lookup? other = before.lookup? other := by
      intro other away
      rw [arrived, lookup?_insert, if_neg away, lookup?_erase]
      split
      · rename_i same
        rw [same, fills.free]
      · rename_i outside
        exact elsewhere other outside
    refine ⟨place, serial, ?_, ?_, others, ?_, ?_⟩
    · rw [berth.resolve_target nonempty, ← stepped]
      exact (lastStep_of_agree elsewhere).symm
    · rw [arrived, lookup?_insert, if_pos rfl]
    · intro location serial channel
      cases beside.channel.symm.trans channel
      rw [others _ apart.symm, fills.free]
    · rw [arrived]
      change written.system.working = before.working
      rw [stored, store_working, fills.working]
  · rw [succeeded] at failed
    contradiction

/-- What was opened for reading before an output was staged is read as before. -/
theorem readAll_of_createStaged {before created : FileSystem} {output : Output}
    {path inputPath : Bytes} {mode : Nat} {chance : Chance} {file : OpenFile}
    (made : createStaged before path mode chance = ⟨created, .ok output⟩)
    (opened : before.openForReading inputPath = .ok file) :
    created.readAll file = before.readAll file := by
  obtain ⟨_, _, _, -, -, -, fills⟩ := createStaged_beside made
  refine readAll_congr fun location serial channel => ?_
  obtain ⟨text, mode, found⟩ := openForReading_found opened channel
  rw [(find_found found).2, fills.lookup?_eq_some (find_found found).2]

/-- The permissions that an output for a path gets: those of the file that has the path, or
the ones for a new file. -/
def modeFor (system : FileSystem) (location : Location) (mode : Nat) : Nat :=
  match system.look location with
  | some (.file _ old) => Mode.permissions old
  | _ => mode

theorem create_staged_mode {before created : FileSystem} {output : Output} {path : Bytes}
    {mode : Nat} {chance : Chance} (made : create before path mode chance = ⟨created, .ok output⟩)
    (staged : output.target.isSome) :
    ∃ wanted, createStaged before path wanted chance = ⟨created, .ok output⟩ ∧
      ∀ place, before.resolve .kept path = .ok place →
        place.TakesFile ∧ wanted = modeFor before place.location mode := by
  rcases create_staged made staged with ⟨location, serial, content, old, found, started⟩ |
    ⟨absent, started⟩
  · refine ⟨_, started, fun place resolved => ?_⟩
    obtain ⟨same, present⟩ := find_found found
    cases same.symm.trans resolved
    refine ⟨trivial, ?_⟩
    rw [modeFor, look, Place.location, present]
    rfl
  · refine ⟨_, started, fun place resolved => ?_⟩
    cases place with
    | taken location entry =>
        rw [find, resolved] at absent
        contradiction
    | free location =>
        have free := (reaches_of_resolve resolved).free_cases.1
        refine ⟨trivial, ?_⟩
        rw [modeFor, look, Place.location, free]
        rfl

end Output

namespace Injector

open FileSystem

/-- A medium that gives what a file holds if reading ends well, and that writes into
nothing but the file. -/
structure Medium.Faithful (medium : Medium) : Prop where
  source : ∀ system file, (medium.source system file).ending = .finished →
    system.readAll file = .ok (medium.source system file).bytes
  sink : ∀ file, (medium.sink file).accepted = #[]

theorem faithful_sound : Medium.Faithful {} where
  source := by
    intro system file finished
    cases read : system.readAll file with
    | ok content => simp [sourceOf, read, Source.bytes]
    | error fault => simp [sourceOf, read] at finished
  sink := by
    intro file
    change (sinkOf file).accepted = #[]
    unfold sinkOf
    split <;> rfl

variable {injector : Injector} {medium : Medium} {before created : FileSystem}
  {file : OpenFile} {output : Output} {inputPath outputPath : Bytes}

/-- A transfer that succeeds has read the input to its end, written its whole rendering and
committed the output. -/
theorem transfer_ok (faithful : medium.Faithful)
    (succeeded : (injector.transfer medium created file output inputPath outputPath).failure =
      none) :
    ∃ content, created.readAll file = .ok content ∧
      let written := (Output.write created output (injector.render inputPath content)).1
      (Output.commit written.system written.output).failure = none ∧
      (injector.transfer medium created file output inputPath outputPath).system =
        (Output.commit written.system written.output).system := by
  unfold transfer at succeeded ⊢
  simp only [Output.abort_commit] at succeeded ⊢
  split at succeeded
  · contradiction
  · rename_i complete
    obtain ⟨finished, received⟩ := inject_complete complete
    have accepted : (injector.inject (medium.source created file) (medium.sink output.file)
        inputPath).sink.accepted.toList =
        injector.render inputPath (medium.source created file).bytes := by
      simp [received, Sink.after, faithful.sink]
    rw [accepted] at succeeded ⊢
    refine ⟨_, faithful.source created file finished, ?_, rfl⟩
    simpa using succeeded

/-- A conversion that succeeds with a staged output replaces the entry of the output and
leaves every other entry as it was: the new file holds the rendering of what the input
held before, with the permissions of the file it replaces or those of a new file. -/
theorem convert_replaces_output (faithful : medium.Faithful)
    (made : Output.create before outputPath newFileMode medium.chance = ⟨created, .ok output⟩)
    (staged : output.target.isSome)
    (succeeded : (injector.convert before inputPath outputPath medium).failure = none) :
    ∃ location content, before.denoted? outputPath = some location ∧
      before.Holds inputPath content ∧
      (injector.convert before inputPath outputPath medium).system.look location =
        some (.file (injector.render inputPath content)
          (Output.modeFor before location newFileMode)) ∧
      (∀ other, other ≠ location →
        (injector.convert before inputPath outputPath medium).system.lookup? other =
          before.lookup? other) ∧
      (∀ place serial, output.file.channel = .file place serial →
        (injector.convert before inputPath outputPath medium).system.lookup? place = none) ∧
      (injector.convert before inputPath outputPath medium).system.working = before.working := by
  unfold convert at succeeded ⊢
  cases opened : before.openForReading inputPath with
  | error refusal => simp [opened] at succeeded
  | ok file =>
      simp only [opened, made] at succeeded ⊢
      obtain ⟨content, read, committed, result⟩ := transfer_ok faithful succeeded
      obtain ⟨wanted, started, permitted⟩ := Output.create_staged_mode made staged
      obtain ⟨place, serial, resolved, replaced, others, unstaged, working⟩ :=
        Output.staged_committed started committed
      obtain ⟨-, permissions⟩ := permitted place resolved
      have held : before.readAll file = .ok content := by
        rw [← Output.readAll_of_createStaged started opened, read]
      have small : wanted < 512 := by
        rw [permissions, Output.modeFor]
        split
        · exact Mode.permissions_lt _
        · decide
      rw [result]
      refine ⟨place.location, content, by rw [denoted?, resolved], ⟨file, opened, held⟩, ?_, others,
        unstaged, working⟩
      rw [look, replaced, Mode.afterWrite_bits small, permissions]
      rfl

/-- The input is a link to the output, and the output may also run as its owner. -/
theorem convert_replaces_output_behind_link :
    let before : FileSystem :=
      { entries := [([], .directory 0o755), ([ascii "in"], .link (ascii "out")),
          ([ascii "out"], .file 0 (ascii "x") 0o4640)] }
    let conversion := ({} : Injector).convert before (ascii "/in") (ascii "/out")
    conversion.failure = none ∧ before.Holds (ascii "/in") (ascii "x") ∧
      conversion.system.look [ascii "out"] =
        some (.file (Directive.render 1 (ascii "/in") ++ ascii "x") 0o640) ∧
      ∀ other, other ≠ [ascii "out"] → conversion.system.lookup? other = before.lookup? other := by
  intro before conversion
  have succeeded : conversion.failure = none := by decide +kernel
  have chosen : ((Output.create before (ascii "/out") newFileMode).result.toOption.map
      fun output => output.target.isSome) = some true := by decide +kernel
  rcases made : Output.create before (ascii "/out") newFileMode with ⟨created, fault | output⟩
  · rw [made] at chosen
    contradiction
  · rw [made] at chosen
    have staged : output.target.isSome := by simpa [Except.toOption] using chosen
    obtain ⟨location, content, denoted, holds, replaced, others, -⟩ :=
      convert_replaces_output faithful_sound made staged succeeded
    have place : location = [ascii "out"] := by
      have found : before.denoted? (ascii "/out") = some [ascii "out"] := by decide +kernel
      exact Option.some.inj (denoted.symm.trans found)
    subst place
    have input : before.find .followed (ascii "/in") =
        .ok ([ascii "out"], .file 0 (ascii "x") 0o4640) := by decide +kernel
    have whole : content = ascii "x" := holds.eq_of_find input
    subst whole
    exact ⟨succeeded, holds, replaced.trans (by decide +kernel), others⟩

end Injector

end ImportSplice
