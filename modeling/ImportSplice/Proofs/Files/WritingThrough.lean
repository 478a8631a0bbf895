import ImportSplice.Proofs.Files.Aliasing
import ImportSplice.Proofs.Files.Session

/-!
Outputs behind links.  A link is never replaced: the file that the chain of links leads to
is opened, and the bytes go into it.  Every other entry stays, the links included, whether
the conversion succeeds or not.
-/

namespace ImportSplice

namespace FileSystem

/-- The location of the file that a path leads to over all links, whether it is there or
not. -/
def fileAt? (system : FileSystem) (path : Bytes) : Option Location :=
  match system.resolve .followed path with
  | .ok (.free location) | .ok (.taken location (.file _ _ _)) => some location
  | _ => none

variable {before after : FileSystem} {last : LastName} {links mode : Nat}
  {here location : Location} {path : List Bytes} {place : Place} {entry : Entry} {text : Bytes}

theorem fileAt?_of_resolve (resolved : before.resolve .followed text = .ok place)
    (takes : place.TakesFile) : before.fileAt? text = some place.location := by
  rw [fileAt?, resolved]
  rcases Place.TakesFile.free_or_file takes with
    ⟨location, rfl⟩ | ⟨location, serial, content, mode, rfl⟩
  · rfl
  · rfl

theorem place_of_fileAt? (led : before.fileAt? text = some location) :
    ∃ place, before.resolve .followed text = .ok place ∧ place.TakesFile ∧
      place.location = location := by
  unfold fileAt? at led
  split at led
  · rename_i resolved
    cases led
    exact ⟨_, resolved, trivial, rfl⟩
  · rename_i resolved
    cases led
    exact ⟨_, resolved, trivial, rfl⟩
  · contradiction

/-- Only a directory can be meant by names that end in a slash. -/
theorem Reaches.directory_of_slash (reached : Reaches before last links here path place)
    (slash : path.getLast? = some []) :
    ∃ location mode, place = .taken location (.directory mode) := by
  induction reached with
  | arrive found => contradiction
  | @stay links here mode name rest place found same later inductionHypothesis =>
      cases rest with
      | nil =>
          cases later with
          | arrive again =>
              cases found.symm.trans again
              exact ⟨_, _, rfl⟩
      | cons next rest => exact inductionHypothesis (by simpa using slash)
  | @rise links here mode rest place found searchable later inductionHypothesis =>
      cases rest with
      | nil => cases slash
      | cons next rest => exact inductionHypothesis (by simpa using slash)
  | free found proper absent =>
      cases slash
      exact absurd proper.named (by simp)
  | keep found proper linked kept =>
      cases slash
      exact absurd proper.named (by simp)
  | @follow links here mode name target rest place found proper linked followed later
      inductionHypothesis =>
      cases rest with
      | nil =>
          cases slash
          exact absurd proper.named (by simp)
      | cons next rest =>
          exact inductionHypothesis (by simpa [List.getLast?_append] using slash)
  | @enter links here mode name rest entry place found proper present noLink later
      inductionHypothesis =>
      cases rest with
      | nil =>
          cases slash
          exact absurd proper.named (by simp)
      | cons next rest => exact inductionHypothesis (by simpa using slash)

theorem Proper.created {name : Bytes} {rest : List Bytes} (proper : Proper last mode name rest)
    (noSlash : rest.getLast? ≠ some []) : Proper .created mode name rest :=
  { proper with
    noSlash := by
      rw [Bool.eq_false_iff]
      intro slash
      simp only [Bool.and_eq_true, List.all_eq_true, Bool.not_eq_true', List.isEmpty_iff] at slash
      obtain ⟨⟨-, filled⟩, empty⟩ := slash
      have nonempty : rest ≠ [] := by simpa using filled
      apply noSlash
      rw [List.getLast?_eq_some_getLast nonempty, empty _ (List.getLast_mem nonempty)] }

/-- Where a path leads if its last name is followed, it also leads if it is going to be a
file, unless it leads to a directory. -/
theorem Reaches.created (reached : Reaches before .followed links here path place)
    (noDirectory : ∀ location mode, place ≠ .taken location (.directory mode)) :
    Reaches before .created links here path place := by
  induction reached with
  | arrive found => exact .arrive found
  | stay found same later inductionHypothesis =>
      exact .stay found same (inductionHypothesis noDirectory)
  | rise found searchable later inductionHypothesis =>
      exact .rise found searchable (inductionHypothesis noDirectory)
  | free found proper absent => exact .free found (proper.created (by simp)) absent
  | keep found proper linked kept => contradiction
  | @follow links here mode name target rest place found proper linked followed later
      inductionHypothesis =>
      refine .follow found (proper.created ?_) linked (by simp) (inductionHypothesis noDirectory)
      intro slash
      obtain ⟨location, mode, same⟩ :=
        later.directory_of_slash (by simp [List.getLast?_append, slash])
      exact noDirectory location mode same
  | enter found proper present noLink later inductionHypothesis =>
      refine .enter found (proper.created ?_) present noLink (inductionHypothesis noDirectory)
      intro slash
      obtain ⟨location, mode, same⟩ := later.directory_of_slash slash
      exact noDirectory location mode same

/-- A walk to anything but a file meets no file, so it ends as before when only files have
changed. -/
theorem Reaches.unfiled (reached : Reaches before last links here path (.taken location entry))
    (noFile : ∀ serial content mode, entry ≠ .file serial content mode)
    (kept : ∀ location entry, (∀ serial content mode, entry ≠ .file serial content mode) →
      before.lookup? location = some entry → after.lookup? location = some entry) :
    Reaches after last links here path (.taken location entry) := by
  generalize arrived : Place.taken location entry = place at reached ⊢
  induction reached with
  | arrive found =>
      cases arrived
      exact .arrive (kept _ _ noFile found)
  | free found proper absent => contradiction
  | keep found proper linked isKept =>
      cases arrived
      exact .keep (kept _ _ (by simp) found) proper (kept _ _ noFile linked) isKept
  | stay found same later inductionHypothesis =>
      exact .stay (kept _ _ (by simp) found) same (inductionHypothesis arrived)
  | rise found searchable later inductionHypothesis =>
      exact .rise (kept _ _ (by simp) found) searchable (inductionHypothesis arrived)
  | follow found proper linked followed later inductionHypothesis =>
      exact .follow (kept _ _ (by simp) found) proper (kept _ _ (by simp) linked) followed
        (inductionHypothesis arrived)
  | enter found proper present noLink later inductionHypothesis =>
      refine .enter (kept _ _ (by simp) found) proper (kept _ _ ?_ present) noLink
        (inductionHypothesis arrived)
      rintro serial content mode rfl
      cases later with
      | arrive again =>
          cases arrived
          exact noFile _ _ _ (Option.some.inj (again.symm.trans present))
      | stay again | rise again | free again | keep again | follow again | enter again =>
          cases present.symm.trans again

/-- Nothing but the file at a location, where a path leads, has changed.  It holds some bytes
now, and it is the same file with the same permissions or a new one with a mode. -/
structure Rewritten (before after : FileSystem) (path bytes : Bytes) (newMode : Nat)
    (location : Location) : Prop where
  led : before.fileAt? path = some location
  others : ∀ other, other ≠ location → after.lookup? other = before.lookup? other
  working : after.working = before.working
  refilled : ∀ serial content old, before.lookup? location = some (.file serial content old) →
    ∃ mode, after.lookup? location = some (.file serial bytes mode) ∧
      Mode.permissions mode = Mode.permissions old
  created : before.lookup? location = none →
    ∃ serial, after.lookup? location = some (.file serial bytes newMode)

theorem Rewritten.find_eq {bytes : Bytes} {newMode : Nat} {goal : Location}
    (rewritten : Rewritten before after text bytes newMode goal)
    (found : before.find last text = .ok (location, entry))
    (noFile : ∀ serial content mode, entry ≠ .file serial content mode) :
    after.find last text = .ok (location, entry) := by
  obtain ⟨place, led, takes, rfl⟩ := place_of_fileAt? rewritten.led
  have kept := (reaches_of_resolve led).keeps_others takes rewritten.others
  obtain ⟨valid, nonempty, reached⟩ := resolve_ok (find_found found).1
  rw [find, resolve_eq_walk valid nonempty, rewritten.working,
    (reached.unfiled noFile kept).walk_eq]

variable {opened : FileSystem} {file : OpenFile} {serial newMode : Nat}

theorem rewritten_of_store (resolved : before.resolve .created text = .ok place)
    (takes : place.TakesFile)
    (emptied : opened.lookup? place.location = some (.file serial [] mode))
    (others : ∀ other, other ≠ place.location → opened.lookup? other = before.lookup? other)
    (working : opened.working = before.working)
    (same : ∀ number content old, before.lookup? place.location = some (.file number content old) →
      serial = number ∧ Mode.permissions mode = Mode.permissions old)
    (fresh : before.lookup? place.location = none → mode = newMode) (bytes : Bytes) :
    Rewritten before (opened.store place.location serial 0 bytes) text bytes
      (Mode.afterWrite newMode bytes) place.location := by
  have stored : ∀ other, (opened.store place.location serial 0 bytes).lookup? other =
      if other = place.location then some (.file serial bytes (Mode.afterWrite mode bytes))
      else opened.lookup? other := lookup?_store emptied bytes
  refine
    { led := fileAt?_of_resolve (resolve_followed resolved (Place.TakesFile.noLink takes)) takes
      others := ?_
      working := by rw [store_working, working]
      refilled := ?_
      created := ?_ }
  · intro other apart
    rw [stored, if_neg apart, others other apart]
  · intro number content old present
    obtain ⟨rfl, permitted⟩ := same number content old present
    refine ⟨Mode.afterWrite mode bytes, by rw [stored, if_pos rfl], ?_⟩
    rw [Mode.permissions_afterWrite, permitted]
  · intro absent
    rw [← fresh absent]
    exact ⟨serial, by rw [stored, if_pos rfl]⟩

/-- Opening for writing and writing changes the file that the path leads to; a device takes
the bytes and nothing changes. -/
theorem Opens.written (opens : Opens before text newMode opened file) (bytes : Bytes) :
    (∃ location, Rewritten before (opened.write file bytes).system text bytes
        (Mode.afterWrite (Mode.masked newMode) bytes) location) ∨
      before.fileAt? text = none ∧ (opened.write file bytes).system = before := by
  cases opens with
  | @created location resolved allowed =>
      have emptied : (before.create location (Mode.masked newMode)).1.lookup? location =
          some (.file before.used [] (Mode.masked newMode)) :=
        (lookup?_insert ..).trans (if_pos rfl)
      refine .inl ⟨_, rewritten_of_store resolved trivial emptied
        (fun other apart => (lookup?_insert ..).trans (if_neg apart)) rfl ?_ (fun _ => rfl) bytes⟩
      intro number content old present
      have absent := (reaches_of_resolve resolved).free_cases.1
      cases absent.symm.trans present
  | emptied resolved writable =>
      have found := (reaches_of_resolve resolved).found
      refine .inl ⟨_, rewritten_of_store resolved trivial ((lookup?_insert ..).trans (if_pos rfl))
        (fun other apart => (lookup?_insert ..).trans (if_neg apart)) rfl ?_ ?_ bytes⟩
      · intro number content old present
        cases found.symm.trans present
        exact ⟨rfl, Mode.permissions_afterChange _⟩
      · intro absent
        cases found.symm.trans absent
  | @device location kind resolved =>
      refine .inr ⟨?_, by cases kind <;> rfl⟩
      rw [fileAt?, resolve_followed resolved (by simp)]

theorem openForWriting_of_missing (led : before.fileAt? text = some location)
    (missing : before.lookup? location = none) (allowed : before.allowsChange location = true)
    (newMode : Nat) : ∃ opened file, Opens before text newMode opened file := by
  obtain ⟨place, resolved, takes, rfl⟩ := place_of_fileAt? led
  obtain ⟨valid, nonempty, reached⟩ := resolve_ok resolved
  cases place with
  | free location =>
      have created : before.resolve .created text = .ok (.free location) := by
        rw [resolve_eq_walk valid nonempty, (reached.created (by simp)).walk_eq]
      exact ⟨_, _, .created created allowed⟩
  | taken location entry => cases reached.found.symm.trans missing

end FileSystem

namespace Output

variable {system : FileSystem} {output : Output}

theorem commit_in_place (direct : output.target = none) :
    (Output.commit system output).system = system := by
  simp only [Output.commit, direct]
  split <;> rfl

theorem abort_in_place (direct : output.target = none) :
    (Output.abort system output).system = system := by
  simp only [Output.abort, direct]
  split <;> rfl

end Output

namespace Injector

open FileSystem

variable {injector : Injector} {medium : Medium} {before : FileSystem}
  {inputPath outputPath target : Bytes} {link : Location}

/-- Whatever reading and writing do, a transfer in place only writes. -/
theorem transfer_in_place (injector : Injector) (medium : Medium) (opened : FileSystem)
    (input file : OpenFile) (inputPath outputPath : Bytes) :
    ∃ bytes, (injector.transfer medium opened input { file, target := none } inputPath
      outputPath).system = (opened.write file bytes).system := by
  refine ⟨(injector.inject (medium.source opened input) (medium.sink file)
    inputPath).sink.accepted.toList, ?_⟩
  unfold transfer
  simp only [Output.abort_commit]
  split
  · exact Output.abort_in_place rfl
  · exact Output.commit_in_place rfl

theorem convert_link_cases
    (linked : before.find .kept outputPath = .ok (link, .link target)) :
    (∃ stored location, Rewritten before
        (injector.convert before inputPath outputPath medium).system outputPath stored 0o644
        location) ∨
      (injector.convert before inputPath outputPath medium).system = before ∧
        ((∀ file, before.openForReading inputPath ≠ .ok file) ∨
          (∀ opened file, ¬ Opens before outputPath newFileMode opened file) ∨
          before.fileAt? outputPath = none) := by
  have fresh : ∀ bytes, Mode.afterWrite (Mode.masked newFileMode) bytes = 0o644 := by
    intro bytes
    change Mode.afterWrite (Mode.bits 0o644) bytes = 0o644
    exact Mode.afterWrite_bits (by decide) bytes
  unfold convert
  cases reading : before.openForReading inputPath with
  | error refusal => exact .inr ⟨rfl, .inl (by simp)⟩
  | ok input =>
      simp only [Output.create, linked, Output.createDirect]
      cases writing : before.openForWriting outputPath newFileMode with
      | error refusal =>
          refine .inr ⟨rfl, .inr (.inl ?_)⟩
          intro opened file opens
          cases writing.symm.trans (openForWriting_ok_iff.mpr opens)
      | ok result =>
          obtain ⟨opened, file⟩ := result
          obtain ⟨bytes, written⟩ :=
            transfer_in_place injector medium opened input file inputPath outputPath
          dsimp only
          rw [written]
          rcases (openForWriting_ok_iff.mp writing).written bytes with
            ⟨location, rewritten⟩ | ⟨unfiled, same⟩
          · rw [fresh] at rewritten
            exact .inl ⟨bytes, location, rewritten⟩
          · exact .inr ⟨same, .inr (.inr unfiled)⟩

/-- A conversion whose output is a link writes through it, whether it succeeds or not: the
link stays, nothing is staged, and only the file behind all links may change.  If that file
is missing, it is created once the input is open and its directory may change. -/
theorem convert_writes_through_link
    (linked : before.find .kept outputPath = .ok (link, .link target)) :
    let after := (injector.convert before inputPath outputPath medium).system
    after.find .kept outputPath = .ok (link, .link target) ∧
      (∀ created output,
        Output.create before outputPath newFileMode medium.chance = ⟨created, .ok output⟩ →
        output.target = none) ∧
      (after = before ∨
        ∃ stored location, Rewritten before after outputPath stored 0o644 location) ∧
      (∀ location file, before.fileAt? outputPath = some location →
        before.lookup? location = none → before.allowsChange location = true →
        before.openForReading inputPath = .ok file →
        ∃ serial stored, after.lookup? location = some (.file serial stored 0o644)) := by
  intro after
  have unstaged : ∀ created output,
      Output.create before outputPath newFileMode medium.chance = ⟨created, .ok output⟩ →
      output.target = none := by
    intro created output made
    rw [Output.create, linked] at made
    exact Output.createDirect_target made
  rcases convert_link_cases linked with ⟨stored, goal, rewritten⟩ | ⟨same, reason⟩
  · refine ⟨rewritten.find_eq linked (by simp), unstaged, .inr ⟨stored, goal, rewritten⟩, ?_⟩
    intro location file led missing _ _
    cases rewritten.led.symm.trans led
    obtain ⟨serial, filed⟩ := rewritten.created missing
    exact ⟨serial, stored, filed⟩
  · refine ⟨by rw [show after = before from same, linked], unstaged, .inl same, ?_⟩
    intro location file led missing allowed reading
    obtain ⟨opened, output, opens⟩ := openForWriting_of_missing led missing allowed newFileMode
    rcases reason with unread | unopened | unfiled
    · exact absurd reading (unread file)
    · exact absurd opens (unopened opened output)
    · cases unfiled.symm.trans led

/-- Two links lead to a name that is free, and the disk is full after three bytes. -/
theorem convert_writes_through_dangling_chain :
    let before : FileSystem :=
      { entries := [([], .directory 0o755), ([ascii "in"], .file 0 (ascii "x") 0o644),
          ([ascii "out"], .link (ascii "d/next")), ([ascii "d"], .directory 0o755),
          ([ascii "next", ascii "d"], .link (ascii "new"))] }
    let medium : Medium :=
      { sink := fun file =>
          { room := some 3, overrun := .fails (.call FileSystem.writeCall file.path .noSpace) } }
    let conversion := ({} : Injector).convert before (ascii "/in") (ascii "/out") medium
    conversion.failure.isSome = true ∧
      conversion.system.find .kept (ascii "/out") =
        .ok ([ascii "out"], .link (ascii "d/next")) ∧
      (∃ serial stored, conversion.system.lookup? [ascii "new", ascii "d"] =
        some (.file serial stored 0o644)) ∧
      ∀ other, other ≠ [ascii "new", ascii "d"] →
        conversion.system.lookup? other = before.lookup? other := by
  intro before medium conversion
  have linked : before.find .kept (ascii "/out") =
      .ok ([ascii "out"], .link (ascii "d/next")) := by decide +kernel
  have led : before.fileAt? (ascii "/out") = some [ascii "new", ascii "d"] := by decide +kernel
  have reading : before.openForReading (ascii "/in") =
      .ok { path := ascii "/in", channel := .file [ascii "in"] 0 } := by decide +kernel
  obtain ⟨stays, -, changed, created⟩ := convert_writes_through_link linked
  have filled := created _ _ led (by decide +kernel) (by decide +kernel) reading
  refine ⟨by decide +kernel, stays, filled, ?_⟩
  intro other apart
  rcases changed with same | ⟨stored, location, rewritten⟩
  · exact congrArg (FileSystem.lookup? · other) same
  · cases rewritten.led.symm.trans led
    exact rewritten.others other apart

end Injector

end ImportSplice
