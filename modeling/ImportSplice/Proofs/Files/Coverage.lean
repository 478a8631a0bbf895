import ImportSplice.Proofs.Files.Slots
import ImportSplice.Proofs.Files.StagedNumbers
import ImportSplice.Proofs.Files.WritingThrough

/-!
Outputs against files that are plainly opened.  Wherever a path can be opened for writing,
an output for it can be created, written and committed, and the file that the path leads to
then holds what it would hold if it had been opened and written in place.  The exceptions are
outputs that have to be staged: the number drawn may make the staged name or path too long,
all names drawn may be taken, and the mode of the staged file may be refused.
-/

namespace ImportSplice

theorem Mode.afterChange_afterChange (mode : Nat) :
    afterChange (afterChange mode) = afterChange mode := by
  have cleared : afterChange mode / 2048 % 2 = 0 ∧
      (afterChange mode / 1024 % 2 = 0 ∨ afterChange mode / 8 % 2 = 0) := by
    rw [afterChange]
    rcases Nat.mod_two_eq_zero_or_one (mode / 8) with group | group <;> rw [group] <;> omega
  generalize afterChange mode = changed at cleared ⊢
  rw [afterChange, cleared.1]
  rcases cleared.2 with none | none <;> simp [none]

namespace FileSystem

theorem insert_insert (system : FileSystem) (location : Location) (first second : Entry) :
    (system.insert location first).insert location second = system.insert location second := by
  simp [insert, List.filter_filter]

/-- Writes texts one after another, up to the first that is refused. -/
def writeAll (system : FileSystem) (file : OpenFile) : List Bytes → Written
  | [] => { system, file, count := 0, failure := none }
  | bytes :: rest =>
      let written := system.write file bytes
      match written.failure with
      | some _ => written
      | none =>
          let later := writeAll written.system written.file rest
          { later with count := written.count + later.count }

variable {system : FileSystem} {file : OpenFile} {location : Location} {serial mode : Nat}
  {content : Bytes}

theorem store_nil (system : FileSystem) (location : Location) (serial offset : Nat) :
    system.store location serial offset [] = system := by
  unfold store
  split <;> simp

theorem store_cons (present : system.lookup? location = some (.file serial content mode))
    (byte : UInt8) (rest : Bytes) :
    system.store location serial content.length (byte :: rest) =
      system.insert location
        (.file serial (content ++ byte :: rest) (Mode.afterChange mode)) := by
  simp [store, present, overwrite_at_end]

theorem store_store (present : system.lookup? location = some (.file serial content mode))
    (first second : Bytes) :
    (system.store location serial content.length first).store location serial
        (content.length + first.length) second =
      system.store location serial content.length (first ++ second) := by
  cases first with
  | nil => simp only [store_nil, List.length_nil, Nat.add_zero, List.nil_append]
  | cons byte rest =>
      cases second with
      | nil => simp only [store_nil, List.append_nil]
      | cons next more =>
          rw [List.cons_append, store_cons present, store_cons present, ← List.length_append,
            store_cons ((lookup?_insert ..).trans (if_pos rfl)), insert_insert,
            Mode.afterChange_afterChange, List.append_assoc, List.cons_append]

theorem write_eq (isOpen : file.isOpen = true) (channel : file.channel = .file location serial)
    (offset : file.offset = content.length) (bytes : Bytes) :
    system.write file bytes =
      { system := system.store location serial content.length bytes,
        file := { file with offset := content.length + bytes.length },
        count := bytes.length, failure := none } := by
  simp [write, isOpen, channel, offset]

/-- Texts written one after another are written as one. -/
theorem writeAll_eq (isOpen : file.isOpen = true) (channel : file.channel = .file location serial)
    (offset : file.offset = content.length)
    (present : system.lookup? location = some (.file serial content mode)) (texts : List Bytes) :
    system.writeAll file texts = system.write file texts.flatten := by
  induction texts generalizing system file content mode with
  | nil =>
      rw [write_eq isOpen channel offset, List.flatten_nil, store_nil, List.length_nil,
        Nat.add_zero, ← offset]
      rfl
  | cons bytes rest inductionHypothesis =>
      let moved : OpenFile := { file with offset := content.length + bytes.length }
      have stillOpen : moved.isOpen = true := isOpen
      have advanced : moved.offset = (content ++ bytes).length := (List.length_append ..).symm
      have stored := lookup?_store present bytes location
      rw [if_pos rfl] at stored
      have later : (system.store location serial content.length bytes).writeAll moved rest =
          (system.store location serial content.length bytes).write moved rest.flatten :=
        inductionHypothesis stillOpen channel advanced stored
      rw [write_eq stillOpen channel advanced, List.length_append, store_store present] at later
      rw [writeAll, write_eq isOpen channel offset, write_eq isOpen channel offset]
      simp only [moved, later, List.flatten_cons, List.length_append, Nat.add_assoc]

variable {before after : FileSystem} {last : LastName} {links : Nat} {here : Location}
  {path : List Bytes} {place : Place} {text bytes : Bytes} {newMode : Nat}

/-- Where a path leads if its last name is followed, it also leads if the name is kept,
unless it is a link. -/
theorem Reaches.unfollowed (reached : Reaches before last links here path place) :
    ∃ other, Reaches before .kept links here path other ∧
      (other = place ∨ ∃ location target, other = .taken location (.link target)) := by
  induction reached with
  | arrive found => exact ⟨_, .arrive found, .inl rfl⟩
  | stay found same later inductionHypothesis =>
      obtain ⟨other, onward, reason⟩ := inductionHypothesis
      exact ⟨other, .stay found same onward, reason⟩
  | rise found searchable later inductionHypothesis =>
      obtain ⟨other, onward, reason⟩ := inductionHypothesis
      exact ⟨other, .rise found searchable onward, reason⟩
  | free found proper absent =>
      exact ⟨_, .free found (proper.before (by simp) _) absent, .inl rfl⟩
  | keep found proper linked kept =>
      exact ⟨_, .keep found (proper.before (by simp) _) linked rfl, .inl rfl⟩
  | @follow links here mode name target rest place found proper linked followed later
      inductionHypothesis =>
      cases rest with
      | nil => exact ⟨_, .keep found (proper.before (by simp) _) linked rfl, .inr ⟨_, _, rfl⟩⟩
      | cons next rest =>
          obtain ⟨other, onward, reason⟩ := inductionHypothesis
          exact ⟨other, .follow found (proper.before (by simp) _) linked (by simp) onward, reason⟩
  | enter found proper present noLink later inductionHypothesis =>
      obtain ⟨other, onward, reason⟩ := inductionHypothesis
      exact ⟨other, .enter found (proper.before (by simp) _) present noLink onward, reason⟩

theorem resolve_unfollowed (resolved : before.resolve last text = .ok place) :
    before.resolve .kept text = .ok place ∨
      ∃ location target, before.find .kept text = .ok (location, .link target) := by
  obtain ⟨valid, nonempty, reached⟩ := resolve_ok resolved
  obtain ⟨other, kept, rfl | ⟨location, target, rfl⟩⟩ := reached.unfollowed
  · exact .inl (by rw [resolve_eq_walk valid nonempty, kept.walk_eq])
  · exact .inr ⟨location, target, by rw [find, resolve_eq_walk valid nonempty, kept.walk_eq]⟩

/-- The last name of a path to a place for a file names an entry of a directory. -/
theorem entry_of_takesFile (tree : before.isTree = true)
    (leads : LeadsInto before text here mode)
    (stepped : before.lastStep here (Path.split text).2 = .ok place) (takes : place.TakesFile) :
    Proper .kept mode (Path.split text).2 [] ∧
      place = before.placeAt ((Path.split text).2 :: here) := by
  rcases lastStep_cases leads.found stepped with rfl | ⟨entry, rfl, above⟩ | named
  · exact absurd takes id
  · obtain ⟨mode, directory⟩ := directory_above tree leads.found
    cases directory.symm.trans above
    exact absurd takes id
  · exact named

theorem rename_succeeds {old new : Bytes} {source : Location} {entry : Entry}
    (found : before.find .kept old = .ok (source, entry))
    (resolved : before.resolve .kept new = .ok place) (takes : place.TakesFile)
    (allowed : before.allowsChange source = true)
    (allowedPlace : before.allowsChange place.location = true) (apart : source ≠ place.location) :
    ∃ after, before.rename old new = .ok after := by
  rcases Place.TakesFile.free_or_file takes with
    ⟨location, rfl⟩ | ⟨location, serial, content, mode, rfl⟩ <;>
  · rw [Place.location] at allowedPlace apart
    simp [rename, found, resolved, allowed, allowedPlace, apart]

theorem Rewritten.found (rewritten : Rewritten before after text bytes newMode location) :
    ∃ serial mode, after.find .followed text = .ok (location, .file serial bytes mode) ∧
      ∀ goal number content old,
        before.find .followed text = .ok (goal, .file number content old) →
        Mode.permissions mode = Mode.permissions old := by
  obtain ⟨place, resolved, takes, rfl⟩ := place_of_fileAt? rewritten.led
  cases found : before.lookup? place.location with
  | none =>
      obtain ⟨serial, filed⟩ := rewritten.created found
      refine ⟨serial, newMode,
        find_refiled resolved takes filed rewritten.others rewritten.working, ?_⟩
      intro goal number content old existing
      obtain ⟨again, present⟩ := find_found existing
      cases resolved.symm.trans again
      cases found.symm.trans present
  | some entry =>
      obtain ⟨serial, content, old, rfl⟩ :=
        (reaches_of_resolve resolved).file_of_takesFile takes entry found
      obtain ⟨mode, filed, permitted⟩ := rewritten.refilled serial content old found
      refine ⟨serial, mode,
        find_refiled resolved takes filed rewritten.others rewritten.working, ?_⟩
      intro goal number content old existing
      obtain ⟨again, present⟩ := find_found existing
      cases resolved.symm.trans again
      cases found.symm.trans present
      exact permitted

end FileSystem

namespace Output

open FileSystem

/-- Writes texts to an output one after another, up to the first that is refused. -/
def writeAll (system : FileSystem) (output : Output) : List Bytes → Step
  | [] => { system, output, failure := none }
  | bytes :: rest =>
      let (step, _) := write system output bytes
      match step.failure with
      | some _ => step
      | none => writeAll step.system step.output rest

/-- Writes texts to an output and commits it. -/
def deliver (system : FileSystem) (output : Output) (texts : List Bytes) : Step :=
  let written := writeAll system output texts
  commit written.system written.output

variable {before plain created system : FileSystem} {file : OpenFile} {output : Output}
  {path : Bytes} {directory : Location} {number serial next mode wanted directoryMode : Nat}
  {content : Bytes} {place : Place} {chance : Chance}

theorem writeAll_eq_file (system : FileSystem) (output : Output) (texts : List Bytes) :
    writeAll system output texts =
      { system := (system.writeAll output.file texts).system,
        output := { output with file := (system.writeAll output.file texts).file },
        failure := (system.writeAll output.file texts).failure } := by
  induction texts generalizing system output with
  | nil => rfl
  | cons bytes rest inductionHypothesis =>
      rw [writeAll, FileSystem.writeAll, Output.write]
      cases refused : (system.write output.file bytes).failure with
      | some fault => simp only [refused]
      | none => simp only [inductionHypothesis]

theorem writeAll_eq_write {location : Location} (isOpen : output.file.isOpen = true)
    (channel : output.file.channel = .file location serial)
    (offset : output.file.offset = content.length)
    (present : system.lookup? location = some (.file serial content mode)) (texts : List Bytes) :
    writeAll system output texts = (Output.write system output texts.flatten).1 := by
  rw [writeAll_eq_file, FileSystem.writeAll_eq isOpen channel offset present]
  rfl

theorem Beside.commit_ok (beside : Beside system output path directory number serial content mode)
    (isOpen : output.file.isOpen = true) (nonempty : path ≠ [])
    (stepped : system.lastStep directory (Path.split path).2 = .ok place)
    (inside : place.location = (Path.split path).2 :: directory) (takes : place.TakesFile) :
    (Output.commit system output).failure = none := by
  have resolved : system.resolve .kept path = .ok place :=
    (beside.berth.resolve_target nonempty).trans stepped
  have allowed : system.allowsChange place.location = true := by
    rw [inside]
    exact beside.berth.allowed _
  obtain ⟨after, renamed⟩ := rename_succeeds beside.find_eq resolved takes
    (beside.berth.allowed _) allowed (beside.berth.apart stepped).symm
  have closing : output.file.close = ({ output.file with isOpen := false }, none) := by
    simp [OpenFile.close, isOpen]
  simp only [Output.commit, beside.unfinished, beside.target, closing, renamed,
    Bool.false_eq_true, if_false]

/-- Texts that are written to an output and committed end up where the same texts end up
that are written to a file plainly opened. -/
structure Mirrors (before plain created : FileSystem) (file : OpenFile) (output : Output)
    (path : Bytes) (texts : List Bytes) : Prop where
  written : (writeAll created output texts).failure = none
  committed : (deliver created output texts).failure = none
  plainly : (plain.writeAll file texts).failure = none
  stored : ∃ location serial number mode plainMode,
    (deliver created output texts).system.find .followed path =
        .ok (location, .file serial texts.flatten mode) ∧
      (plain.writeAll file texts).system.find .followed path =
        .ok (location, .file number texts.flatten plainMode) ∧
      ∀ goal known content old,
        before.find .followed path = .ok (goal, .file known content old) →
        Mode.permissions mode = Mode.permissions old
  linked : ∀ link target, before.find .kept path = .ok (link, .link target) →
    (deliver created output texts).system.find .kept path = .ok (link, .link target)

/-- Texts written to a file that was plainly opened are all that changes, unless the path
leads to a device. -/
theorem plain_rewritten (writing : before.openForWriting path mode = .ok (plain, file))
    (noDevice : ∀ location kind, before.find .followed path ≠ .ok (location, .device kind))
    (texts : List Bytes) :
    (plain.writeAll file texts).failure = none ∧
      (plain.writeAll file texts).file.isOpen = true ∧
      ∃ newMode location, Rewritten before (plain.writeAll file texts).system path texts.flatten
        newMode location := by
  obtain ⟨isOpen, start, device | inPlace⟩ := openForWriting_ok writing
  · obtain ⟨location, kind, resolved⟩ := device
    exact absurd resolved (resolve_ne_device noDevice location kind)
  · obtain ⟨place, serial, newMode, resolved, takes, channel, emptied, -⟩ := inPlace
    have offset : file.offset = ([] : Bytes).length := start
    have led := fileAt?_of_resolve (resolve_followed resolved (Place.TakesFile.noLink takes)) takes
    rw [writeAll_eq isOpen channel offset emptied]
    refine ⟨?_, ?_, ?_⟩
    · rw [write_eq isOpen channel offset]
    · rw [write_eq isOpen channel offset, isOpen]
    · rcases (openForWriting_ok_iff.mp writing).written texts.flatten with
        ⟨location, rewritten⟩ | ⟨unfiled, -⟩
      · exact ⟨_, location, rewritten⟩
      · cases unfiled.symm.trans led

/-- An output that is opened like the plain file mirrors it.  Serial numbers that a staged
file has used up make no difference. -/
theorem mirrors_in_place {direct : OpenFile}
    (writing : before.openForWriting path mode = .ok (plain, file))
    (opened : openForWriting { before with next } path wanted = .ok (created, direct))
    (noDevice : ∀ location kind, before.find .followed path ≠ .ok (location, .device kind))
    (texts : List Bytes) :
    Mirrors before plain created file { file := direct, target := none } path texts := by
  obtain ⟨unrefused, -, newMode, location, rewritten⟩ := plain_rewritten writing noDevice texts
  obtain ⟨number, plainMode, plainly, -⟩ := rewritten.found
  obtain ⟨accepted, isOpen, directMode, goal, renewed⟩ :=
    plain_rewritten opened (by simpa using noDevice) texts
  have filled : Rewritten before (created.writeAll direct texts).system path texts.flatten
      directMode goal :=
    { renewed with led := by simpa [fileAt?] using renewed.led }
  obtain ⟨serial, mode, found, permitted⟩ := filled.found
  cases rewritten.led.symm.trans filled.led
  have written := writeAll_eq_file created { file := direct, target := none } texts
  have kept : (deliver created { file := direct, target := none } texts).system =
      (created.writeAll direct texts).system := by
    rw [deliver, commit_in_place, written]
    rw [written]
  exact
    { written := by rw [written, accepted]
      committed := by
        simp [deliver, written, commit, OpenFile.close, isOpen]
      plainly := unrefused
      stored := ⟨_, serial, number, mode, plainMode, by rw [kept, found], plainly, permitted⟩
      linked := fun link target linked => by rw [kept, filled.find_eq linked (by simp)] }

theorem staged_commits (tree : before.isTree = true)
    (resolved : before.resolve .kept path = .ok place) (takes : place.TakesFile)
    (made : createStaged before path wanted chance = ⟨created, .ok output⟩) (bytes : Bytes) :
    let written := (Output.write created output bytes).1
    (Output.commit written.system written.output).failure = none := by
  intro written
  obtain ⟨directory, number, serial, berth, beside, isOpen, fills⟩ := createStaged_beside made
  obtain ⟨directoryMode, leads, -⟩ := berth.leads
  have nonempty := (resolve_ok resolved).2.1
  have stepped : before.lastStep directory (Path.split path).2 = .ok place :=
    (berth.resolve_target nonempty).symm.trans resolved
  have inside : place.location = (Path.split path).2 :: directory := by
    rw [(entry_of_takesFile tree leads stepped takes).2, placeAt_location]
  have elsewhere : ∀ other, other ≠ stagedAt path directory number →
      written.system.lookup? other = before.lookup? other := by
    intro other apart
    rw [beside.write_others isOpen bytes apart, fills.others other apart]
  have stillOpen : written.output.file.isOpen = true := by
    rw [show written = _ from congrArg Prod.fst (beside.write_eq isOpen bytes)]
    exact isOpen
  exact (beside.write isOpen bytes).commit_ok stillOpen nonempty
    ((lastStep_of_agree elsewhere).trans stepped) inside takes

theorem mirrors_staged (tree : before.isTree = true)
    (writing : before.openForWriting path mode = .ok (plain, file))
    (noDevice : ∀ location kind, before.find .followed path ≠ .ok (location, .device kind))
    (resolved : before.resolve .kept path = .ok place) (takes : place.TakesFile)
    (made : createStaged before path wanted chance = ⟨created, .ok output⟩)
    (permitted : ∀ location known content old, place = .taken location (.file known content old) →
      wanted = Mode.permissions old) (texts : List Bytes) :
    Mirrors before plain created file output path texts := by
  obtain ⟨directory, number, serial, -, beside, isOpen, -⟩ := createStaged_beside made
  have written : writeAll created output texts = (Output.write created output texts.flatten).1 :=
    writeAll_eq_write isOpen beside.channel beside.written beside.present texts
  have delivered : deliver created output texts =
      Output.commit (Output.write created output texts.flatten).1.system
        (Output.write created output texts.flatten).1.output := by
    rw [deliver, written]
  have committed := staged_commits tree resolved takes made texts.flatten
  obtain ⟨again, newSerial, same, replaced, others, -, working⟩ := staged_committed made committed
  cases resolved.symm.trans same
  have stored := find_refiled resolved takes replaced others working
  obtain ⟨unrefused, -, newMode, location, rewritten⟩ := plain_rewritten writing noDevice texts
  obtain ⟨plainSerial, plainMode, plainly, -⟩ := rewritten.found
  have followed := resolve_followed resolved (Place.TakesFile.noLink takes)
  cases rewritten.led.symm.trans (fileAt?_of_resolve followed takes)
  rw [← delivered] at stored
  refine
    { written := by rw [written, beside.write_eq isOpen]
      committed := by
        rw [delivered]
        exact committed
      plainly := unrefused
      stored := ⟨_, _, _, _, _, stored, plainly, ?_⟩
      linked := ?_ }
  · intro goal known content old existing
    cases followed.symm.trans (find_found existing).1
    rw [Mode.permissions_afterWrite, Mode.permissions_bits, permitted goal known content old rfl]
    exact Nat.mod_mod ..
  · intro link target linked
    cases resolved.symm.trans (find_found linked).1
    exact absurd takes id

/-- How the staging of an output ends in a directory with a mode. -/
inductive Stages (system : FileSystem) (path : Bytes) (chance : Chance) (directoryMode : Nat) :
    Creation → Prop where
  | staged {created : FileSystem} {output : Output} :
      Stages system path chance directoryMode ⟨created, .ok output⟩
  | refused {staged : Bytes} (closed : Mode.allowsWriting directoryMode = false) :
      Stages system path chance directoryMode
        ⟨system, .error (.call openCall staged .accessDenied)⟩
  | tooLong {attempt : Nat} (last : LastDraw system path chance.draws attempt)
      (long : TooLong path (chance.draws attempt).toNat) :
      Stages system path chance directoryMode
        ⟨system, .error
          (.call openCall (stagedPath path (chance.draws attempt).toNat) .nameTooLong)⟩
  | exhausted (taken : ∀ attempt < maxDraws, Taken system path chance.draws attempt) :
      Stages system path chance directoryMode
        ⟨system, .error (.call temporaryCall (stagedPattern path) .taken)⟩
  | unmoded {next attempt : Nat} {refusal : Refusal}
      (last : LastDraw system path chance.draws attempt)
      (refused : chance.refusesMode = some refusal) :
      Stages system path chance directoryMode
        ⟨{ system with next }, .error (.within (ascii "setting permissions")
          (.call modeCall (stagedPath path (chance.draws attempt).toNat) refusal))⟩

theorem Sought.stages
    (sought : Sought before path chance.draws directoryMode
      (createTemporary before path chance.draws maxDraws 0)) (wanted : Nat) :
    Stages before path chance directoryMode (createStaged before path wanted chance) := by
  generalize made : createStaged before path wanted chance = creation
  cases createStaged_cases made with
  | undrawn drawn =>
      rw [drawn] at sought
      cases sought with
      | refused closed => exact .refused closed
      | tooLong last long => exact .tooLong last long
      | exhausted taken => exact .exhausted taken
  | staged => exact .staged
  | unmoded drawn refused =>
      rw [drawn] at sought
      cases sought with
      | drawn last named =>
          rw [named]
          exact .unmoded last refused

/-- What becomes of an output for a path that can be plainly opened: it mirrors the plain
file, whatever is written, or it is refused because it cannot be staged.  A file that exists
is never refused for want of a permission. -/
inductive Covers (before plain : FileSystem) (file : OpenFile) (path : Bytes) (chance : Chance) :
    Creation → Prop where
  | mirrored {created : FileSystem} {output : Output}
      (mirrors : ∀ texts, Mirrors before plain created file output path texts) :
      Covers before plain file path chance ⟨created, .ok output⟩
  | tooLong {attempt : Nat} (last : LastDraw before path chance.draws attempt)
      (long : TooLong path (chance.draws attempt).toNat) :
      Covers before plain file path chance
        ⟨before, .error
          (.call openCall (stagedPath path (chance.draws attempt).toNat) .nameTooLong)⟩
  | exhausted (taken : ∀ attempt < maxDraws, Taken before path chance.draws attempt) :
      Covers before plain file path chance
        ⟨before, .error (.call temporaryCall (stagedPattern path) .taken)⟩
  | unmoded {next attempt : Nat} {refusal : Refusal}
      (last : LastDraw before path chance.draws attempt)
      (refused : chance.refusesMode = some refusal)
      (lost : before.find .kept path = .error .noEntry ∨ refusal.kind? ≠ some .permission) :
      Covers before plain file path chance
        ⟨{ before with next }, .error (.within (ascii "setting permissions")
          (.call modeCall (stagedPath path (chance.draws attempt).toNat) refusal))⟩

theorem covers_in_place {direct : OpenFile}
    (writing : before.openForWriting path mode = .ok (plain, file))
    (opened : openForWriting { before with next } path wanted = .ok (created, direct))
    (noDevice : ∀ location kind, before.find .followed path ≠ .ok (location, .device kind)) :
    Covers before plain file path chance (createDirect { before with next } path wanted) := by
  rw [createDirect, opened]
  exact .mirrored (mirrors_in_place writing opened noDevice)

theorem stages_of_takesFile (tree : before.isTree = true)
    (resolved : before.resolve .kept path = .ok place) (takes : place.TakesFile) (wanted : Nat) :
    ∃ directoryMode,
      Stages before path chance directoryMode (createStaged before path wanted chance) ∧
      before.allowsChange place.location = Mode.allowsWriting directoryMode := by
  obtain ⟨valid, -, reached⟩ := resolve_ok resolved
  rw [names_eq_leading] at reached
  obtain ⟨directory, directoryMode, leads, stepped⟩ := reached.parted
  obtain ⟨proper, placed⟩ := entry_of_takesFile tree leads stepped takes
  have sought : Sought before path chance.draws directoryMode
      (createTemporary before path chance.draws maxDraws 0) :=
    createTemporary_sought leads proper.searchable valid.noZero (Nat.zero_add maxDraws) (by simp)
  refine ⟨directoryMode, sought.stages wanted, ?_⟩
  rw [placed, placeAt_location, allowsChange, List.tail_cons, LeadsInto.found leads]

theorem covers_new {location : Location} (tree : before.isTree = true)
    (writing : before.openForWriting path mode = .ok (plain, file))
    (noDevice : ∀ location kind, before.find .followed path ≠ .ok (location, .device kind))
    (resolved : before.resolve .kept path = .ok (.free location))
    (allowed : before.allowsChange location = true) :
    Covers before plain file path chance (createStaged before path mode chance) := by
  obtain ⟨directoryMode, stages, same⟩ := stages_of_takesFile tree resolved trivial mode
  generalize made : createStaged before path mode chance = creation at stages ⊢
  cases stages with
  | staged => exact .mirrored (mirrors_staged tree writing noDevice resolved trivial made (by simp))
  | refused closed =>
      rw [Place.location, allowed, closed] at same
      contradiction
  | tooLong last long => exact .tooLong last long
  | exhausted taken => exact .exhausted taken
  | unmoded last refused => exact .unmoded last refused (.inl (by rw [find, resolved]))

/-- A file that exists is staged, or written in place where staging it takes a permission
that is not there. -/
theorem covers_existing {location : Location} {known old : Nat} (tree : before.isTree = true)
    (writing : before.openForWriting path mode = .ok (plain, file))
    (noDevice : ∀ location kind, before.find .followed path ≠ .ok (location, .device kind))
    (resolved : before.resolve .created path = .ok (.taken location (.file known content old)))
    (writable : Mode.allowsWriting old = true)
    (kept : before.resolve .kept path = .ok (.taken location (.file known content old))) :
    Covers before plain file path chance (create before path mode chance) := by
  have found : before.find .kept path = .ok (location, .file known content old) := by
    rw [find, kept]
  obtain ⟨directoryMode, stages, -⟩ :=
    stages_of_takesFile tree kept trivial (Mode.permissions old)
  have inPlace : ∀ next, Covers before plain file path chance
      (createDirect { before with next } path (Mode.permissions old)) := by
    intro next
    have reached : resolve { before with next } .created path =
        .ok (.taken location (.file known content old)) := (resolve_next ..).trans resolved
    exact covers_in_place writing (openForWriting_ok_iff.mpr (.emptied reached writable)) noDevice
  rw [create, found]
  dsimp only
  generalize made : createStaged before path (Mode.permissions old) chance = creation at stages ⊢
  cases stages with
  | staged =>
      refine .mirrored (mirrors_staged tree writing noDevice kept trivial made ?_)
      intro location known content old same
      cases same
      rfl
  | refused closed => exact inPlace before.next
  | tooLong last long => exact .tooLong last long
  | exhausted taken => exact .exhausted taken
  | @unmoded next attempt refusal last refused =>
      by_cases denied : refusal.kind? = some .permission
      · simp only [Fault.shows, denied, beq_self_eq_true, if_true]
        exact inPlace next
      · simp only [Fault.shows, beq_eq_false_iff_ne.mpr denied, Bool.false_eq_true, if_false]
        exact .unmoded last refused (.inr denied)

/-- An output for a path that can be plainly opened does what the plain file does, or it
cannot be staged: the name drawn is too long, all names drawn are taken, or the staged file
does not get its mode. -/
theorem create_covers_plain_open (tree : before.isTree = true)
    (writing : before.openForWriting path mode = .ok (plain, file))
    (noDevice : ∀ location kind, before.find .followed path ≠ .ok (location, .device kind))
    (chance : Chance) :
    Covers before plain file path chance (create before path mode chance) := by
  have linked : ∀ {link target}, before.find .kept path = .ok (link, .link target) →
      Covers before plain file path chance (create before path mode chance) := by
    intro link target found
    rw [create, found]
    exact covers_in_place writing writing noDevice
  cases openForWriting_ok_iff.mp writing with
  | created resolved allowed =>
      rcases resolve_unfollowed resolved with kept | ⟨link, target, found⟩
      · have absent : before.find .kept path = .error .noEntry := by rw [find, kept]
        rw [create, absent]
        exact covers_new tree writing noDevice kept allowed
      · exact linked found
  | emptied resolved writable =>
      rcases resolve_unfollowed resolved with kept | ⟨link, target, found⟩
      · exact covers_existing tree writing noDevice resolved writable kept
      · exact linked found
  | device resolved => exact absurd resolved (resolve_ne_device noDevice _ _)

/-- The directory takes no new names, the file may run as its owner, and the path crosses a
link to a directory. -/
theorem create_covers_read_only_directory :
    let before : FileSystem :=
      { entries := [([], .directory 0o755), ([ascii "l"], .link (ascii "d")),
          ([ascii "d"], .directory 0o555),
          ([ascii "out", ascii "d"], .file 0 (ascii "previous") 0o4640)] }
    before.isTree = true ∧
      ∃ plain file created output,
        before.openForWriting (ascii "/l/out") 0o644 = .ok (plain, file) ∧
        create before (ascii "/l/out") 0o644 = ⟨created, .ok output⟩ ∧
        ∀ texts, Mirrors before plain created file output (ascii "/l/out") texts := by
  intro before
  have tree : before.isTree = true := by decide +kernel
  have led : before.find .followed (ascii "/l/out") =
      .ok ([ascii "out", ascii "d"], .file 0 (ascii "previous") 0o4640) := by decide +kernel
  have succeeds : (before.openForWriting (ascii "/l/out") 0o644).toOption.isSome = true ∧
      (create before (ascii "/l/out") 0o644).result.toOption.isSome = true := by decide +kernel
  cases writing : before.openForWriting (ascii "/l/out") 0o644 with
  | error refusal => simp [writing, Except.toOption] at succeeds
  | ok result =>
      obtain ⟨plain, file⟩ := result
      have covers := create_covers_plain_open tree writing (by simp [led]) {}
      generalize made : create before (ascii "/l/out") 0o644 = outcome at succeeds covers
      cases covers with
      | mirrored mirrors => exact ⟨tree, plain, file, _, _, rfl, rfl, mirrors⟩
      | tooLong | exhausted | unmoded => simp [Except.toOption] at succeeds

/-- A file whose name has as many bytes as a name may have can be opened, but no output can
be created for it. -/
theorem create_refuses_long_name :
    ¬ ∀ (before plain : FileSystem) (file : OpenFile) (path : Bytes) (mode : Nat) (chance : Chance),
      before.isTree = true → before.openForWriting path mode = .ok (plain, file) →
      (∀ location kind, before.find .followed path ≠ .ok (location, .device kind)) →
      chance.refusesMode = none →
      ∃ created output, create before path mode chance = ⟨created, .ok output⟩ := by
  intro always
  let name : Bytes := List.replicate 255 110
  let before : FileSystem :=
    { entries := [([], .directory 0o755), ([name], .file 0 (ascii "old") 0o644)] }
  have resolved : before.resolve .created (Bytes.slash :: name) =
      .ok (.taken [name] (.file 0 (ascii "old") 0o644)) := by decide +kernel
  have writing : before.openForWriting (Bytes.slash :: name) 0o644 = .ok _ :=
    openForWriting_ok_iff.mpr (.emptied resolved (by decide))
  have noDevice : ∀ location kind, before.find .followed (Bytes.slash :: name) ≠
      .ok (location, .device kind) := by
    rw [find, resolve_followed resolved (by simp)]
    simp
  have refused : (create before (Bytes.slash :: name) 0o644).result.toOption.isSome = false := by
    decide +kernel
  obtain ⟨created, output, made⟩ :=
    always before _ _ _ 0o644 {} (by decide +kernel) writing noDevice rfl
  rw [made, Except.toOption] at refused
  simp only [Option.isSome_some, Bool.true_eq_false] at refused

end Output

end ImportSplice
