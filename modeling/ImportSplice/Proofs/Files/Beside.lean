import ImportSplice.Proofs.Files.StagedPaths
import ImportSplice.Proofs.Files.Staging

/-!
Staged outputs among other entries.  A staged file lies in the directory that the path of
its output leads into, under a name of its own.  While the path leads there, each thing
that can be done with the output changes at most two entries: the staged file, and the
entry of the path when it is committed.
-/

namespace ImportSplice

/-- The mode of a file after bytes have been written to it. -/
def Mode.afterWrite (mode : Nat) (bytes : Bytes) : Nat :=
  if bytes.isEmpty then mode else Mode.afterChange mode

namespace FileSystem

variable {system after : FileSystem} {location : Location} {serial mode : Nat}
  {content bytes : Bytes}

@[simp]
theorem store_working (system : FileSystem) (location : Location) (serial offset : Nat)
    (bytes : Bytes) : (system.store location serial offset bytes).working = system.working := by
  unfold store
  split
  · split <;> rfl
  · rfl

theorem lookup?_store (present : system.lookup? location = some (.file serial content mode))
    (bytes : Bytes) (other : Location) :
    (system.store location serial content.length bytes).lookup? other =
      if other = location then some (.file serial (content ++ bytes) (Mode.afterWrite mode bytes))
      else system.lookup? other := by
  rw [store, present]
  cases bytes with
  | nil =>
      simp only [List.isEmpty_nil, Bool.not_true, Bool.and_false, Bool.false_eq_true, if_false,
        List.append_nil, Mode.afterWrite, if_true]
      split
      · rename_i same
        rw [same, present]
      · rfl
  | cons byte rest =>
      simp only [beq_self_eq_true, List.isEmpty_cons, Bool.not_false, Bool.and_self, if_true,
        overwrite_at_end, lookup?_insert, Mode.afterWrite, Bool.false_eq_true, if_false]

/-- A renaming that is done puts the entry where the new path leads, and a directory never
stands there. -/
theorem rename_ok {old new : Bytes} (renamed : system.rename old new = .ok after) :
    ∃ source entry place, system.find .kept old = .ok (source, entry) ∧
      system.resolve .kept new = .ok place ∧
      (∀ location mode, place ≠ .taken location (.directory mode)) ∧
      after = if source = place.location then system
        else (system.erase source).insert place.location entry := by
  unfold rename at renamed
  split at renamed
  · contradiction
  · rename_i source entry found
    split at renamed
    · contradiction
    · contradiction
    · rename_i target displaced plain resolved
      refine ⟨source, entry, _, found, resolved, ?_, ?_⟩
      · rintro location mode same
        cases same
        exact plain mode rfl
      · split at renamed
        · contradiction
        · split at renamed <;> simp_all [Place.location]
    · rename_i target resolved
      refine ⟨source, entry, _, found, resolved, by simp, ?_⟩
      split at renamed
      · contradiction
      · split at renamed <;> simp_all [Place.location]

end FileSystem

namespace Output

open FileSystem

/-- A directory in which an output for a path can be staged under a number. -/
structure Berth (system : FileSystem) (path : Bytes) (directory : Location) (number : Nat) :
    Prop where
  leads : ∃ mode, LeadsInto system path directory mode ∧ Mode.allowsWriting mode = true ∧
    Proper .kept mode (stagedName (Path.split path).2 number) []
  valid : Valid (stagedPath path number)

variable {system other : FileSystem} {output : Output} {path : Bytes} {directory : Location}
  {number serial mode : Nat} {content : Bytes} {place : Place}

theorem Berth.resolve_eq (berth : Berth system path directory number) :
    system.resolve .kept (stagedPath path number) =
      .ok (system.placeAt (stagedAt path directory number)) := by
  obtain ⟨mode, leads, -, proper⟩ := berth.leads
  rw [resolve_stagedPath leads proper.searchable berth.valid,
    lastStep_of_proper leads.found proper, stagedAt]

theorem Berth.allowed (berth : Berth system path directory number) (name : Bytes) :
    system.allowsChange (name :: directory) = true := by
  obtain ⟨mode, leads, writable, -⟩ := berth.leads
  rw [allowsChange, List.tail_cons, leads.found]
  exact writable

theorem Berth.resolve_target (berth : Berth system path directory number)
    (nonempty : path ≠ []) :
    system.resolve .kept path = system.lastStep directory (Path.split path).2 := by
  obtain ⟨mode, leads, -⟩ := berth.leads
  exact leads.resolve_eq (valid_of_stagedPath berth.valid) nonempty

/-- A path never leads to where its output is staged. -/
theorem Berth.apart (berth : Berth system path directory number)
    (stepped : system.lastStep directory (Path.split path).2 = .ok place) :
    place.location ≠ stagedAt path directory number := by
  obtain ⟨mode, leads, -⟩ := berth.leads
  rcases lastStep_cases leads.found stepped with rfl | ⟨entry, rfl, -⟩ | ⟨-, rfl⟩
  · exact directory_ne_stagedAt path directory number
  · exact tail_ne_stagedAt path directory number
  · rw [placeAt_location]
    exact base_ne_stagedAt path directory number

theorem lastStep_of_agree
    (agree : ∀ location, location ≠ stagedAt path directory number →
      other.lookup? location = system.lookup? location) :
    other.lastStep directory (Path.split path).2 = system.lastStep directory (Path.split path).2 := by
  apply lastStep_congr
  · exact agree _ (directory_ne_stagedAt path directory number)
  · exact agree _ (tail_ne_stagedAt path directory number)
  · exact agree _ (base_ne_stagedAt path directory number)

theorem Berth.along (berth : Berth system path directory number)
    (working : other.working = system.working)
    (directories : ∀ location mode, system.lookup? location = some (.directory mode) →
      other.lookup? location = some (.directory mode))
    (crossed : ∀ location ∈ system.directoryTrail path, ∀ target,
      system.lookup? location = some (.link target) →
      other.lookup? location = some (.link target)) :
    Berth other path directory number := by
  obtain ⟨mode, leads, writable, proper⟩ := berth.leads
  refine ⟨⟨mode, ?_, writable, proper⟩, berth.valid⟩
  rw [LeadsInto, working]
  exact Reaches.along leads directories crossed

/-- An output that is staged in the directory of its path, with what has been written to
the staged file and its mode. -/
structure Beside (system : FileSystem) (output : Output) (path : Bytes) (directory : Location)
    (number serial : Nat) (content : Bytes) (mode : Nat) : Prop where
  berth : Berth system path directory number
  named : output.file.path = stagedPath path number
  channel : output.file.channel = .file (stagedAt path directory number) serial
  target : output.target = some path
  unfinished : output.finished = false
  written : output.file.offset = content.length
  present : system.lookup? (stagedAt path directory number) = some (.file serial content mode)

/-- A staged output is in the directory of its path, at a location that was free, and
nothing else has changed. -/
theorem createStaged_beside {before created : FileSystem} {chance : Chance}
    (made : createStaged before path mode chance = ⟨created, .ok output⟩) :
    ∃ directory number serial, Berth before path directory number ∧
      Beside created output path directory number serial [] (Mode.bits mode) ∧
      output.file.isOpen = true ∧
      Fills before created (stagedAt path directory number) (.file serial [] (Mode.bits mode)) := by
  obtain ⟨target, ⟨number, named⟩, location, staging⟩ := createStaged_staging made
  obtain ⟨serial, channel, added⟩ := staging.holds
  have resolved := staging.resolved
  rw [named] at resolved
  obtain ⟨directory, directoryMode, leads, stepped⟩ := leadsInto_of_stagedPath resolved
  rcases lastStep_cases leads.found stepped with same | ⟨entry, same, -⟩ | ⟨proper, same⟩
  · contradiction
  · contradiction
  · have placed : location = stagedAt path directory number := by
      have locations := congrArg Place.location same
      rwa [placeAt_location] at locations
    subst placed
    have writable : Mode.allowsWriting directoryMode = true := by
      have allowed := staging.allowed
      rwa [allowsChange, stagedAt, List.tail_cons, leads.found] at allowed
    have berth : Berth before path directory number :=
      ⟨⟨directoryMode, leads, writable, proper⟩, (resolve_ok resolved).1⟩
    have fills := fills_withEntry staging.free (.file serial [] (Mode.bits mode)) created.next
    rw [← added] at fills
    have kept := berth.along fills.working (fun _ _ => fills.lookup?_eq_some)
      (fun _ _ _ => fills.lookup?_eq_some)
    exact ⟨directory, number, serial, berth,
      ⟨kept, named, channel, target, staging.unfinished, staging.written, fills.filled⟩,
      staging.isOpen, fills⟩

def closed (output : Output) : Output := { output with file := { output.file with isOpen := false } }

/-- The output after it was committed or given up. -/
def settled (output : Output) : Output := { output.closed with finished := true }

theorem close_file (output : Output) : output.file.close.1 = output.closed.file := by
  cases opened : output.file.isOpen with
  | true => simp [OpenFile.close, opened, closed]
  | false =>
      have same : output.file = { output.file with isOpen := false } := by rw [← opened]
      rw [OpenFile.close, opened, closed]
      exact same

theorem Beside.find_eq (beside : Beside system output path directory number serial content mode) :
    system.find .kept output.file.path =
      .ok (stagedAt path directory number, .file serial content mode) := by
  rw [find, beside.named, beside.berth.resolve_eq, placeAt, beside.present]

theorem Beside.remove_eq (beside : Beside system output path directory number serial content mode) :
    system.remove output.file.path = .ok (system.erase (stagedAt path directory number)) := by
  have allowed : system.allowsChange (stagedAt path directory number) = true :=
    beside.berth.allowed _
  rw [remove, beside.find_eq]
  simp [allowed]

theorem Beside.write_eq (beside : Beside system output path directory number serial content mode)
    (opened : output.file.isOpen = true) (bytes : Bytes) :
    Output.write system output bytes =
      ({ system := system.store (stagedAt path directory number) serial content.length bytes,
         output := { output with
           file := { output.file with offset := content.length + bytes.length } },
         failure := none }, bytes.length) := by
  simp [Output.write, FileSystem.write, opened, beside.channel, beside.written]

theorem Beside.write_others
    (beside : Beside system output path directory number serial content mode)
    (opened : output.file.isOpen = true) (bytes : Bytes) {location : Location}
    (apart : location ≠ stagedAt path directory number) :
    (Output.write system output bytes).1.system.lookup? location = system.lookup? location := by
  rw [beside.write_eq opened, lookup?_store beside.present, if_neg apart]

theorem Beside.write (beside : Beside system output path directory number serial content mode)
    (opened : output.file.isOpen = true) (bytes : Bytes) :
    Beside (Output.write system output bytes).1.system (Output.write system output bytes).1.output
      path directory number serial (content ++ bytes) (Mode.afterWrite mode bytes) := by
  have kept : ∀ location entry, (∀ serial content mode, entry ≠ .file serial content mode) →
      system.lookup? location = some entry →
      (system.store (stagedAt path directory number) serial content.length bytes).lookup? location =
        some entry := by
    intro location entry noFile found
    rw [lookup?_store beside.present, if_neg]
    · exact found
    · rintro rfl
      exact noFile _ _ _ (Option.some.inj (found.symm.trans beside.present))
  rw [beside.write_eq opened]
  exact
    { berth := beside.berth.along (store_working ..) (fun _ _ => kept _ _ (by simp))
        (fun _ _ _ => kept _ _ (by simp))
      named := beside.named
      channel := beside.channel
      target := beside.target
      unfinished := beside.unfinished
      written := (List.length_append ..).symm
      present := by rw [lookup?_store beside.present, if_pos rfl] }

theorem write_of_closed (system : FileSystem) (shut : output.file.isOpen = false)
    (bytes : Bytes) :
    ∃ fault, Output.write system output bytes = ({ system, output, failure := some fault }, 0) := by
  simp [Output.write, FileSystem.write, shut]

theorem Beside.settled_eq (beside : Beside system output path directory number serial content mode) :
    ({ file := output.file.close.1, target := some path, finished := true } : Output) =
      output.settled := by
  rw [close_file, ← beside.target]
  rfl

theorem Beside.abort_eq (beside : Beside system output path directory number serial content mode) :
    (Output.abort system output).system = system.erase (stagedAt path directory number) ∧
      (Output.abort system output).output = output.settled := by
  simp only [Output.abort, beside.unfinished, beside.target, OpenFile.close_path, beside.remove_eq,
    Bool.false_eq_true, if_false, true_and]
  exact beside.settled_eq

/-- A commit that succeeds puts the staged file where the path leads; one that fails takes
the staged file away.  Both change nothing else. -/
theorem Beside.commit_cases
    (beside : Beside system output path directory number serial content mode) :
    (Output.commit system output).output = output.settled ∧
      (((Output.commit system output).failure = none ∧ ∃ place, path ≠ [] ∧
          system.lastStep directory (Path.split path).2 = .ok place ∧
          (∀ location mode, place ≠ .taken location (.directory mode)) ∧
          (Output.commit system output).system =
            (system.erase (stagedAt path directory number)).insert place.location
              (.file serial content mode)) ∨
        ((Output.commit system output).failure.isSome ∧
          (Output.commit system output).system =
            system.erase (stagedAt path directory number))) := by
  have discarded : discard system output.file.close.1.path =
      system.erase (stagedAt path directory number) := by
    rw [discard, OpenFile.close_path, beside.remove_eq]
  unfold Output.commit
  simp only [beside.unfinished, beside.target, Bool.false_eq_true, if_false]
  split
  · contradiction
  · exact ⟨beside.settled_eq, .inr ⟨rfl, discarded⟩⟩
  · rename_i target closing wanted _
    cases wanted
    split
    · rename_i after renamed
      refine ⟨beside.settled_eq, .inl ⟨rfl, ?_⟩⟩
      rw [OpenFile.close_path] at renamed
      obtain ⟨source, entry, place, found, resolved, plain, rfl⟩ := rename_ok renamed
      obtain ⟨-, nonempty, -⟩ := resolve_ok resolved
      rw [beside.berth.resolve_target nonempty] at resolved
      cases beside.find_eq.symm.trans found
      exact ⟨place, nonempty, resolved, plain, if_neg (beside.berth.apart resolved).symm⟩
    · exact ⟨beside.settled_eq, .inr ⟨rfl, discarded⟩⟩

end Output

end ImportSplice
