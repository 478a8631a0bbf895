import ImportSplice.Files.Output
import ImportSplice.Proofs.Files.Filling

/-!
Staged outputs.  From its creation on, a staged file is the only thing that was added
to the file system, at a location that was free; writing changes its content only.
The path it was created by leads to it, so removing that path takes it away and leaves
the file system as it was; so does a creation that fails.
-/

namespace ImportSplice

namespace FileSystem

variable {system : FileSystem} {location : Location} {entry : Entry}

def withEntry (system : FileSystem) (location : Location) (entry : Entry) (next : Nat) :
    FileSystem :=
  { system with entries := (location, entry) :: system.entries, next }

theorem filter_of_free (free : system.lookup? location = none) :
    (system.entries.filter fun pair => pair.1 != location) = system.entries := by
  rw [List.filter_eq_self]
  intro pair member
  rw [bne_iff_ne]
  rintro rfl
  exact absurd free (by simpa [lookup?] using ⟨pair.2, member⟩)

theorem create_of_free (free : system.lookup? location = none) (mode : Nat) :
    (system.create location mode).1 =
      system.withEntry location (.file system.used [] mode) (system.used + 1) := by
  simp only [create, insert, withEntry, filter_of_free free]

theorem lookup?_withEntry (system : FileSystem) (location : Location) (entry : Entry)
    (next : Nat) (other : Location) :
    (system.withEntry location entry next).lookup? other =
      if other = location then some entry else system.lookup? other := by
  by_cases same : other = location
  · subst same
    rw [if_pos rfl]
    exact List.lookup_cons_self
  · have apart : (other == location) = false := beq_eq_false_iff_ne.mpr same
    simp only [lookup?, withEntry, List.lookup_cons, apart, if_neg same]

theorem insert_withEntry (free : system.lookup? location = none) (entry other : Entry)
    (next : Nat) :
    (system.withEntry location entry next).insert location other =
      system.withEntry location other next := by
  simp [insert, withEntry, filter_of_free free]

theorem erase_withEntry (free : system.lookup? location = none) (entry : Entry) (next : Nat) :
    (system.withEntry location entry next).erase location = { system with next } := by
  simp [erase, withEntry, filter_of_free free]

theorem fills_withEntry (free : system.lookup? location = none) (entry : Entry) (next : Nat) :
    Fills system (system.withEntry location entry next) location entry where
  free := free
  filled := by rw [lookup?_withEntry, if_pos rfl]
  others := fun other apart => by rw [lookup?_withEntry, if_neg apart]
  working := rfl

theorem createNew_ok {path : Bytes} {mode : Nat} {after : FileSystem} {file : OpenFile}
    (created : system.createNew path mode = .ok (after, file)) :
    ∃ location, system.resolve .kept path = .ok (.free location) ∧
      system.allowsChange location = true ∧
      after = (system.create location (Mode.masked mode)).1 ∧
      file = { path, channel := .file location system.used } := by
  unfold createNew at created
  split at created
  · contradiction
  · contradiction
  · rename_i location resolved
    split at created
    · rename_i allowed
      cases created
      exact ⟨location, resolved, allowed, rfl, rfl⟩
    · contradiction

theorem setMode_withEntry {file : OpenFile} {serial : Nat}
    (free : system.lookup? location = none) (channel : file.channel = .file location serial)
    (content : Bytes) (old next mode : Nat) :
    (system.withEntry location (.file serial content old) next).setMode file mode =
      system.withEntry location (.file serial content (Mode.bits mode)) next := by
  simp [setMode, channel, lookup?_withEntry, insert_withEntry free]

section

variable {next : Nat}

/-- Where a path leads does not depend on serial numbers. -/
theorem descend_next (last : LastName) (jump : Location → List Bytes → Except Refusal Place)
    (here : Location) (path : List Bytes) :
    descend { system with next } last jump here path = descend system last jump here path := by
  induction path generalizing here with
  | nil => rfl
  | cons name rest inductionHypothesis =>
      rw [descend, descend]
      simp only [inductionHypothesis]
      rfl

theorem walk_next (last : LastName) (links : Nat) :
    walk { system with next } last links = walk system last links := by
  induction links with
  | zero =>
      funext here path
      exact descend_next ..
  | succ links inductionHypothesis =>
      funext here path
      rw [walk, walk, inductionHypothesis]
      exact descend_next ..

@[simp]
theorem resolve_next (last : LastName) (path : Bytes) :
    resolve { system with next } last path = system.resolve last path := by
  rw [resolve, resolve, walk_next]

@[simp]
theorem find_next (last : LastName) (path : Bytes) :
    find { system with next } last path = system.find last path := by
  rw [find, find, resolve_next]

theorem openForWriting_next {path : Bytes} {mode : Nat} {refusal : Refusal}
    (refused : openForWriting { system with next } path mode = .error refusal) :
    system.openForWriting path mode = .error refusal := by
  unfold openForWriting at refused ⊢
  rw [resolve_next] at refused
  split at refused
  · exact refused
  · rename_i location resolved
    split at refused
    · contradiction
    · rename_i closed
      exact (if_neg closed).trans refused
  · split at refused
    · contradiction
    · rename_i closed
      exact (if_neg closed).trans refused
  · exact refused
  · contradiction
  · exact refused

end

theorem overwrite_at_end (content bytes : Bytes) :
    overwrite content content.length bytes = content ++ bytes := by
  simp [overwrite]

end FileSystem

theorem OpenFile.close_path (file : OpenFile) : file.close.1.path = file.path := by
  unfold OpenFile.close
  split <;> rfl

namespace Output

open FileSystem

/-- An output whose staged file, with a content and a mode, is all that was added to a
file system. -/
structure Staging (before after : FileSystem) (location : Location) (content : Bytes)
    (mode : Nat) (output : Output) : Prop where
  resolved : before.resolve .kept output.file.path = .ok (.free location)
  allowed : before.allowsChange location = true
  holds : ∃ serial, output.file.channel = .file location serial ∧
    after = before.withEntry location (.file serial content mode) after.next
  written : output.file.offset = content.length
  isOpen : output.file.isOpen = true
  unfinished : output.finished = false

variable {before after : FileSystem} {location : Location} {content : Bytes} {mode : Nat}
  {output : Output}

theorem Staging.free (staging : Staging before after location content mode output) :
    before.lookup? location = none :=
  (reaches_of_resolve staging.resolved).free_cases.1

/-- Setting the mode of a staged file changes nothing else. -/
theorem Staging.setMode (staging : Staging before after location content mode output)
    (newMode : Nat) :
    Staging before (after.setMode output.file newMode) location content (Mode.bits newMode)
      output := by
  obtain ⟨serial, channel, added⟩ := staging.holds
  have changed : after.setMode output.file newMode =
      before.withEntry location (.file serial content (Mode.bits newMode)) after.next :=
    (congrArg (FileSystem.setMode · output.file newMode) added).trans
      (setMode_withEntry staging.free channel content mode after.next newMode)
  rw [changed]
  exact { staging with holds := ⟨serial, channel, rfl⟩ }

/-- Removing the staged file leaves the file system as it was, serial numbers apart. -/
theorem Staging.remove_eq (staging : Staging before after location content mode output) :
    after.remove output.file.path = .ok { before with next := after.next } := by
  obtain ⟨serial, -, added⟩ := staging.holds
  obtain ⟨-, name, above, rfl⟩ := (reaches_of_resolve staging.resolved).free_cases
  have fills := fills_withEntry staging.free (.file serial content mode) after.next
  rw [← added] at fills
  have resolved := resolve_fill fills (by simp) staging.resolved
  have allowed : after.allowsChange (name :: above) = true := by
    have apart : (name :: above).tail ≠ name :: above := by simp
    rw [allowsChange, fills.others _ apart]
    exact staging.allowed
  have erased : after.erase (name :: above) = { before with next := after.next } := by
    rw [added]
    exact erase_withEntry staging.free _ _
  rw [Place.fill, if_pos rfl] at resolved
  simp [FileSystem.remove, find, resolved, allowed, erased]

theorem Staging.close_eq (staging : Staging before after location content mode output) :
    output.file.close = ({ output.file with isOpen := false }, none) := by
  simp [OpenFile.close, staging.isOpen]

variable {path : Bytes} {chance : Chance} {fault : Fault}

/-- A staged file is all that was added as soon as it is there. -/
theorem createTemporary_staging {draws : Nat → UInt32} {left attempt : Nat} {file : OpenFile}
    (target : Option Bytes)
    (drawn : createTemporary before path draws left attempt = .ok (after, file)) :
    (∃ number, file.path = stagedPath path number) ∧
      ∃ location, Staging before after location [] (Mode.masked stagedMode) { file, target } := by
  induction left generalizing attempt with
  | zero => contradiction
  | succ left inductionHypothesis =>
      rw [createTemporary] at drawn
      split at drawn
      · rename_i made
        cases drawn
        obtain ⟨location, resolved, allowed, rfl, rfl⟩ := createNew_ok made
        have free := (reaches_of_resolve resolved).free_cases.1
        exact ⟨⟨_, rfl⟩, location, resolved, allowed, ⟨_, rfl, create_of_free free _⟩, rfl, rfl,
          rfl⟩
      · exact inductionHypothesis drawn
      · contradiction

/-- The ways in which the staging of an output ends.  A staged file that does not get its
mode has been taken away again. -/
inductive CreatesStaged (system : FileSystem) (path : Bytes) (mode : Nat) (chance : Chance) :
    Creation → Prop where
  | undrawn {fault : Fault}
      (drawn : createTemporary system path chance.draws maxDraws 0 = .error fault) :
      CreatesStaged system path mode chance ⟨system, .error fault⟩
  | staged {created : FileSystem} {file : OpenFile}
      (drawn : createTemporary system path chance.draws maxDraws 0 = .ok (created, file)) :
      CreatesStaged system path mode chance
        ⟨created.setMode file mode, .ok { file, target := some path }⟩
  | unmoded {created : FileSystem} {file : OpenFile} {next : Nat} {refusal : Refusal}
      (drawn : createTemporary system path chance.draws maxDraws 0 = .ok (created, file))
      (refused : chance.refusesMode = some refusal) :
      CreatesStaged system path mode chance
        ⟨{ system with next }, .error (.within (ascii "setting permissions")
          (.call modeCall file.path refusal))⟩

theorem createStaged_cases {creation : Creation}
    (made : createStaged before path mode chance = creation) :
    CreatesStaged before path mode chance creation := by
  subst made
  unfold createStaged
  split
  · rename_i drawn
    exact .undrawn drawn
  · rename_i created file drawn
    split
    · exact .staged drawn
    · rename_i refusal refused
      obtain ⟨-, location, staging⟩ := createTemporary_staging none drawn
      have restored : discard created file.path = { before with next := created.next } := by
        rw [discard, staging.remove_eq]
      simp only [OpenFile.close_path, restored]
      exact .unmoded drawn refused

theorem createStaged_staging (made : createStaged before path mode chance = ⟨after, .ok output⟩) :
    output.target = some path ∧ (∃ number, output.file.path = stagedPath path number) ∧
      ∃ location, Staging before after location [] (Mode.bits mode) output := by
  cases createStaged_cases made with
  | staged drawn =>
      obtain ⟨named, location, staging⟩ := createTemporary_staging (some path) drawn
      exact ⟨rfl, named, location, staging.setMode mode⟩

/-- If no output can be staged, no file is left behind, whichever step was refused. -/
theorem createStaged_restores
    (refused : createStaged before path mode chance = ⟨after, .error fault⟩) :
    ∃ next, after = { before with next } := by
  cases createStaged_cases refused with
  | undrawn => exact ⟨before.next, rfl⟩
  | unmoded => exact ⟨_, rfl⟩

theorem createDirect_ok (created : createDirect before path mode = ⟨after, .ok output⟩) :
    ∃ file, before.openForWriting path mode = .ok (after, file) ∧
      output = { file, target := none } := by
  unfold createDirect at created
  split at created <;> cases created
  rename_i file opened
  exact ⟨file, opened, rfl⟩

theorem createDirect_target (created : createDirect before path mode = ⟨after, .ok output⟩) :
    output.target = none := by
  obtain ⟨file, -, rfl⟩ := createDirect_ok created
  rfl

theorem createDirect_restores (refused : createDirect before path mode = ⟨after, .error fault⟩) :
    after = before := by
  unfold createDirect at refused
  split at refused <;> cases refused
  rfl

/-- The ways to create an output, by what stands at its path. -/
inductive Creates (system : FileSystem) (path : Bytes) (mode : Nat) (chance : Chance) :
    Creation → Prop where
  | unseen {refusal : Refusal} (refused : system.find .kept path = .error refusal)
      (known : refusal ≠ .noEntry) :
      Creates system path mode chance ⟨system, .error (.call statusCall path refusal)⟩
  | fresh {creation : Creation} (absent : system.find .kept path = .error .noEntry)
      (started : createStaged system path mode chance = creation) :
      Creates system path mode chance creation
  | special {location : Location} {entry : Entry} {creation : Creation}
      (found : system.find .kept path = .ok (location, entry))
      (noFile : ∀ serial content old, entry ≠ .file serial content old)
      (opened : createDirect system path mode = creation) :
      Creates system path mode chance creation
  | replaced {location : Location} {serial old : Nat} {content : Bytes} {created : FileSystem}
      {output : Output} (found : system.find .kept path = .ok (location, .file serial content old))
      (started : createStaged system path (Mode.permissions old) chance = ⟨created, .ok output⟩) :
      Creates system path mode chance ⟨created, .ok output⟩
  | unreplaced {location : Location} {serial old next : Nat} {content : Bytes} {fault : Fault}
      (found : system.find .kept path = .ok (location, .file serial content old))
      (started : createStaged system path (Mode.permissions old) chance =
        ⟨{ system with next }, .error fault⟩)
      (allowed : fault.shows .permission = false) :
      Creates system path mode chance ⟨{ system with next }, .error fault⟩
  -- The file is opened itself, and the failed staging has left at most a serial number.
  | rewritten {location : Location} {serial old next : Nat} {content : Bytes} {fault : Fault}
      {creation : Creation}
      (found : system.find .kept path = .ok (location, .file serial content old))
      (started : createStaged system path (Mode.permissions old) chance =
        ⟨{ system with next }, .error fault⟩)
      (denied : fault.shows .permission = true)
      (opened : createDirect { system with next } path (Mode.permissions old) = creation) :
      Creates system path mode chance creation

theorem create_cases {creation : Creation} (made : create before path mode chance = creation) :
    Creates before path mode chance creation := by
  subst made
  unfold create
  split
  · rename_i location serial content old found
    rcases started : createStaged before path (Mode.permissions old) chance with
      ⟨left, fault | output⟩
    · obtain ⟨next, rfl⟩ := createStaged_restores started
      dsimp only
      split
      · rename_i denied
        exact .rewritten found started denied rfl
      · rename_i allowed
        exact .unreplaced found started (by simpa using allowed)
    · exact .replaced found started
  · rename_i entry noFile found
    exact .special found (fun _ _ _ same => noFile _ _ _ _ (by rw [← same])) rfl
  · rename_i absent
    exact .fresh absent rfl
  · rename_i refusal known refused
    exact .unseen refused known

/-- Where no output can be created, the file system is as it was, serial numbers apart. -/
theorem create_restores (refused : create before path mode chance = ⟨after, .error fault⟩) :
    ∃ next, after = { before with next } := by
  cases create_cases refused with
  | unseen => exact ⟨before.next, rfl⟩
  | fresh absent started => exact createStaged_restores started
  | special found noFile opened => exact ⟨before.next, createDirect_restores opened⟩
  | unreplaced found started allowed => exact ⟨_, rfl⟩
  | rewritten found started denied opened => exact ⟨_, createDirect_restores opened⟩

/-- An output is staged or written in place, and its target tells which.  The mode of a
staged file is that of the file it replaces, or the one asked for if there is none. -/
theorem create_staged (created : create before path mode chance = ⟨after, .ok output⟩)
    (staged : output.target.isSome) :
    (∃ place serial content old, before.find .kept path = .ok (place, .file serial content old) ∧
        createStaged before path (Mode.permissions old) chance = ⟨after, .ok output⟩) ∨
      before.find .kept path = .error .noEntry ∧
        createStaged before path mode chance = ⟨after, .ok output⟩ := by
  cases create_cases created with
  | fresh absent started => exact .inr ⟨absent, started⟩
  | replaced found started => exact .inl ⟨_, _, _, _, found, started⟩
  | special found noFile opened => simp [createDirect_target opened] at staged
  | rewritten found started denied opened => simp [createDirect_target opened] at staged

theorem create_staging (created : create before path mode chance = ⟨after, .ok output⟩)
    (staged : output.target.isSome) :
    ∃ location mode, Staging before after location [] mode output := by
  rcases create_staged created staged with ⟨_, _, _, _, -, made⟩ | ⟨-, made⟩ <;>
  · obtain ⟨-, -, location, staging⟩ := createStaged_staging made
    exact ⟨location, _, staging⟩

/-- A write adds to the staged file and to nothing else. -/
theorem Staging.write (staging : Staging before after location content mode output)
    (bytes : Bytes) :
    ∃ mode, Staging before (Output.write after output bytes).1.system location
      (content ++ bytes) mode (Output.write after output bytes).1.output := by
  obtain ⟨serial, channel, added⟩ := staging.holds
  have stored : ∃ mode, after.store location serial output.file.offset bytes =
      before.withEntry location (.file serial (content ++ bytes) mode) after.next := by
    rw [added, store, lookup?_withEntry, if_pos rfl]
    cases bytes with
    | nil => exact ⟨mode, by simp [withEntry]⟩
    | cons byte rest =>
        refine ⟨Mode.afterChange mode, ?_⟩
        simp only [beq_self_eq_true, List.isEmpty_cons, Bool.not_false, Bool.and_self, if_true,
          insert_withEntry staging.free, staging.written, overwrite_at_end]
        rfl
  obtain ⟨newMode, stored⟩ := stored
  refine ⟨newMode, ?_⟩
  unfold Output.write FileSystem.write
  simp only [staging.isOpen, channel, Bool.not_true, Bool.false_eq_true, if_false, stored]
  exact ⟨staging.resolved, staging.allowed, ⟨serial, rfl, rfl⟩,
    by simp [staging.written], rfl, staging.unfinished⟩

theorem Staging.abort (staging : Staging before after location content mode output)
    (staged : output.target.isSome) :
    (Output.abort after output).system = { before with next := after.next } := by
  obtain ⟨path, target⟩ := Option.isSome_iff_exists.mp staged
  simp [Output.abort, staging.unfinished, target, staging.close_eq, staging.remove_eq]

theorem Staging.commit (staging : Staging before after location content mode output)
    (staged : output.target.isSome) (failed : (Output.commit after output).failure.isSome) :
    (Output.commit after output).system = { before with next := after.next } := by
  obtain ⟨path, target⟩ := Option.isSome_iff_exists.mp staged
  unfold Output.commit at failed ⊢
  simp only [staging.unfinished, staging.close_eq, target, Bool.false_eq_true, if_false] at failed ⊢
  split at failed
  · simp at failed
  · simp only [discard, staging.remove_eq]

theorem commit_finished (system : FileSystem) (output : Output) :
    (Output.commit system output).output.finished = true := by
  unfold Output.commit
  split
  · assumption
  · dsimp only
    split
    · rfl
    · rfl
    · split <;> rfl

/-- An output that was committed can be given up without effect. -/
theorem abort_commit (system : FileSystem) (output : Output) :
    (Output.abort (Output.commit system output).system (Output.commit system output).output).system =
      (Output.commit system output).system := by
  rw [Output.abort, if_pos (commit_finished system output)]

end Output

end ImportSplice
