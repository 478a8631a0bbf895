import ImportSplice.Proofs.Files.Replacement

/-!
Conversions between paths that may lead to one file.  A staged output never touches the
input before it is read.  An output in place is emptied when it is opened, so a conversion
that writes in place into its own input succeeds with nothing but the header; in every
other conversion that succeeds the output holds the rendering of the input.
-/

namespace ImportSplice

namespace FileSystem

variable {before after : FileSystem} {last : LastName} {links serial mode : Nat}
  {here : Location} {path : List Bytes} {place : Place} {content : Bytes}

theorem Reaches.file_of_takesFile (reached : Reaches before last links here path place)
    (takes : place.TakesFile) (entry : Entry)
    (present : before.lookup? place.location = some entry) :
    ∃ serial content mode, entry = .file serial content mode := by
  rcases Place.TakesFile.free_or_file takes with
    ⟨location, rfl⟩ | ⟨location, serial, content, mode, rfl⟩
  · have absent := reached.free_cases.1
    rw [Place.location, absent] at present
    contradiction
  · exact ⟨serial, content, mode, Option.some.inj (present.symm.trans reached.found)⟩

theorem Reaches.keeps_others (reached : Reaches before last links here path place)
    (takes : place.TakesFile)
    (others : ∀ other, other ≠ place.location → after.lookup? other = before.lookup? other)
    (location : Location) (entry : Entry)
    (noFile : ∀ serial content mode, entry ≠ .file serial content mode)
    (present : before.lookup? location = some entry) : after.lookup? location = some entry := by
  rw [others location, present]
  rintro rfl
  obtain ⟨serial, content, mode, same⟩ := reached.file_of_takesFile takes entry present
  exact noFile serial content mode same

/-- A walk to a place for a file arrives at the file that has been put there. -/
theorem Reaches.refiled (reached : Reaches before last links here path place)
    (takes : place.TakesFile)
    (filed : after.lookup? place.location = some (.file serial content mode))
    (others : ∀ other, other ≠ place.location → after.lookup? other = before.lookup? other) :
    Reaches after last links here path (.taken place.location (.file serial content mode)) := by
  have files := reached.file_of_takesFile takes
  have kept := reached.keeps_others takes others
  induction reached with
  | arrive found => exact .arrive filed
  | stay found same later inductionHypothesis =>
      exact .stay (kept _ _ (by simp) found) same (inductionHypothesis takes filed others files)
  | rise found searchable later inductionHypothesis =>
      exact .rise (kept _ _ (by simp) found) searchable
        (inductionHypothesis takes filed others files)
  | free found proper absent =>
      exact .enter (kept _ _ (by simp) found) proper filed (by simp) (.arrive filed)
  | keep found proper linked _ => exact absurd takes id
  | follow found proper linked followed later inductionHypothesis =>
      exact .follow (kept _ _ (by simp) found) proper (kept _ _ (by simp) linked) followed
        (inductionHypothesis takes filed others files)
  | @enter links here _ name rest entry place found proper present noLink later
      inductionHypothesis =>
      by_cases met : name :: here = place.location
      · -- The walk has come to the file, so no name is left.
        obtain ⟨serial, content, mode, rfl⟩ := files entry (met ▸ present)
        cases later with
        | arrive again =>
            exact .enter (kept _ _ (by simp) found) proper filed (by simp) (.arrive filed)
        | stay again | rise again | free again | keep again | follow again | enter again =>
            cases present.symm.trans again
      · exact .enter (kept _ _ (by simp) found) proper (by rw [others _ met, present]) noLink
          (inductionHypothesis takes filed others files)

/-- Where a path leads without its last name being followed, it also leads if the name is
followed, unless it is a link. -/
theorem Reaches.followed (reached : Reaches before last links here path place)
    (noLink : ∀ location target, place ≠ .taken location (.link target)) :
    Reaches before .followed links here path place := by
  induction reached with
  | arrive found => exact .arrive found
  | stay found same later inductionHypothesis => exact .stay found same (inductionHypothesis noLink)
  | rise found searchable later inductionHypothesis =>
      exact .rise found searchable (inductionHypothesis noLink)
  | free found proper absent => exact .free found (proper.before (by simp) _) absent
  | keep found proper linked kept => exact absurd rfl (noLink _ _)
  | follow found proper linked followed later inductionHypothesis =>
      exact .follow found (proper.before (by simp) _) linked (by simp) (inductionHypothesis noLink)
  | enter found proper present plain later inductionHypothesis =>
      exact .enter found (proper.before (by simp) _) present plain (inductionHypothesis noLink)

theorem resolve_followed {text : Bytes} (resolved : before.resolve last text = .ok place)
    (noLink : ∀ location target, place ≠ .taken location (.link target)) :
    before.resolve .followed text = .ok place := by
  obtain ⟨valid, nonempty, reached⟩ := resolve_ok resolved
  rw [resolve_eq_walk valid nonempty, (reached.followed noLink).walk_eq]

theorem resolve_ne_device {text : Bytes}
    (noDevice : ∀ location kind, before.find .followed text ≠ .ok (location, .device kind))
    (location : Location) (kind : Device) :
    before.resolve last text ≠ .ok (.taken location (.device kind)) := by
  intro resolved
  apply noDevice location kind
  rw [find, resolve_followed resolved (by simp)]

theorem Place.TakesFile.noLink (takes : place.TakesFile) (location : Location) (target : Bytes) :
    place ≠ .taken location (.link target) := by
  rintro rfl
  exact takes

theorem find_refiled {text : Bytes} (resolved : before.resolve last text = .ok place)
    (takes : place.TakesFile)
    (filed : after.lookup? place.location = some (.file serial content mode))
    (others : ∀ other, other ≠ place.location → after.lookup? other = before.lookup? other)
    (working : after.working = before.working) :
    after.find .followed text = .ok (place.location, .file serial content mode) := by
  obtain ⟨valid, nonempty, reached⟩ :=
    resolve_ok (resolve_followed resolved (Place.TakesFile.noLink takes))
  rw [find, resolve_eq_walk valid nonempty, working,
    (reached.refiled takes filed others).walk_eq]

/-- What can be opened for writing, and what becomes of it. -/
inductive Opens (system : FileSystem) (path : Bytes) (mode : Nat) :
    FileSystem → OpenFile → Prop where
  | created {location : Location} (resolved : system.resolve .created path = .ok (.free location))
      (allowed : system.allowsChange location = true) :
      Opens system path mode (system.create location (Mode.masked mode)).1
        { path, channel := .file location system.used }
  | emptied {location : Location} {serial old : Nat} {content : Bytes}
      (resolved : system.resolve .created path = .ok (.taken location (.file serial content old)))
      (writable : Mode.allowsWriting old = true) :
      Opens system path mode (system.insert location (.file serial [] (Mode.afterChange old)))
        { path, channel := .file location serial }
  | device {location : Location} {kind : Device}
      (resolved : system.resolve .created path = .ok (.taken location (.device kind))) :
      Opens system path mode system { path, channel := .device kind }

theorem openForWriting_ok_iff {text : Bytes} {file : OpenFile} :
    before.openForWriting text mode = .ok (after, file) ↔ Opens before text mode after file := by
  constructor
  · intro opened
    unfold openForWriting at opened
    split at opened
    · contradiction
    · rename_i location resolved
      split at opened
      · rename_i allowed
        cases opened
        exact .created resolved allowed
      · contradiction
    · rename_i location serial old oldMode resolved
      split at opened
      · rename_i writable
        cases opened
        exact .emptied resolved writable
      · contradiction
    · contradiction
    · rename_i location kind resolved
      cases opened
      exact .device resolved
    · contradiction
  · rintro (⟨resolved, allowed⟩ | ⟨resolved, writable⟩ | ⟨resolved⟩)
    · rw [openForWriting, resolved]
      exact if_pos allowed
    · rw [openForWriting, resolved]
      exact if_pos writable
    · rw [openForWriting, resolved]

/-- Whoever writes to a path writes into a place for a file, or to a device. -/
theorem openForWriting_ok {text : Bytes} {file : OpenFile}
    (opened : before.openForWriting text mode = .ok (after, file)) :
    file.isOpen = true ∧ file.offset = 0 ∧
    ((∃ location kind, before.resolve .created text = .ok (.taken location (.device kind))) ∨
      ∃ place serial newMode, before.resolve .created text = .ok place ∧ place.TakesFile ∧
        file.channel = .file place.location serial ∧
        after.lookup? place.location = some (.file serial [] newMode) ∧
        (∀ other, other ≠ place.location → after.lookup? other = before.lookup? other) ∧
        after.working = before.working) := by
  rcases openForWriting_ok_iff.mp opened with ⟨resolved, -⟩ | ⟨resolved, -⟩ | ⟨resolved⟩
  · exact ⟨rfl, rfl, .inr ⟨_, _, Mode.masked mode, resolved, trivial, rfl,
      (lookup?_insert ..).trans (if_pos rfl),
      fun other apart => (lookup?_insert ..).trans (if_neg apart), rfl⟩⟩
  · exact ⟨rfl, rfl, .inr ⟨_, _, _, resolved, trivial, rfl,
      (lookup?_insert ..).trans (if_pos rfl),
      fun other apart => (lookup?_insert ..).trans (if_neg apart), rfl⟩⟩
  · exact ⟨rfl, rfl, .inl ⟨_, _, resolved⟩⟩

end FileSystem

namespace Output

open FileSystem

variable {before created : FileSystem} {output : Output} {path bytes : Bytes} {mode : Nat}
  {chance : Chance}

/-- An output that is written in place was opened like any file, after staging it had left
at most a serial number behind. -/
theorem create_direct (made : create before path mode chance = ⟨created, .ok output⟩)
    (direct : output.target = none) :
    ∃ next file mode, openForWriting { before with next } path mode = .ok (created, file) ∧
      output = { file, target := none } := by
  cases create_cases made with
  | fresh _ started | replaced _ started =>
      rw [(createStaged_staging started).1] at direct
      contradiction
  | special found noFile opened =>
      obtain ⟨file, writing, same⟩ := createDirect_ok opened
      exact ⟨before.next, file, mode, writing, same⟩
  | rewritten found started denied opened =>
      obtain ⟨file, writing, same⟩ := createDirect_ok opened
      exact ⟨_, file, _, writing, same⟩

/-- What is written in place is in the file when the output is committed, and nothing else
has changed. -/
theorem direct_committed {file : OpenFile} {location : Location} {serial fileMode : Nat}
    (isOpen : file.isOpen = true) (start : file.offset = 0)
    (channel : file.channel = .file location serial)
    (emptied : created.lookup? location = some (.file serial [] fileMode)) (bytes : Bytes) :
    let written := (Output.write created { file, target := none } bytes).1
    let after := (Output.commit written.system written.output).system
    after.lookup? location = some (.file serial bytes (Mode.afterWrite fileMode bytes)) ∧
      (∀ other, other ≠ location → after.lookup? other = created.lookup? other) ∧
      after.working = created.working := by
  intro written after
  have stored : after = created.store location serial ([] : Bytes).length bytes := by
    simp [after, written, Output.write, FileSystem.write, Output.commit, isOpen, start, channel]
  refine ⟨?_, ?_, ?_⟩
  · rw [stored, lookup?_store emptied, if_pos rfl, List.nil_append]
  · intro other apart
    rw [stored, lookup?_store emptied, if_neg apart]
  · rw [stored, store_working]

end Output

namespace Injector

open FileSystem

/-- The output is written in place, and both paths lead to the same file. -/
def OverwritesInput (system : FileSystem) (chance : Output.Chance)
    (inputPath outputPath : Bytes) : Prop :=
  (∃ created output, Output.create system outputPath newFileMode chance = ⟨created, .ok output⟩ ∧
    output.target = none) ∧
  ∃ location serial content mode,
    system.find .followed inputPath = .ok (location, .file serial content mode) ∧
    system.find .followed outputPath = .ok (location, .file serial content mode)

variable {injector : Injector} {medium : Medium} {before created : FileSystem}
  {file : OpenFile} {output : Output} {inputPath outputPath : Bytes}

/-- An input that is open when the output is emptied is read as it was, unless the output
is the input. -/
theorem readAll_of_emptied {place : Place} {serial mode : Nat} {content : Bytes}
    (opened : before.openForReading inputPath = .ok file)
    (made : Output.create before outputPath newFileMode medium.chance = ⟨created, .ok output⟩)
    (direct : output.target = none)
    (resolved : before.resolve .created outputPath = .ok place) (takes : place.TakesFile)
    (emptied : created.lookup? place.location = some (.file serial [] mode))
    (others : ∀ other, other ≠ place.location → created.lookup? other = before.lookup? other)
    (read : created.readAll file = .ok content) :
    ∃ held, before.readAll file = .ok held ∧
      (¬ OverwritesInput before medium.chance inputPath outputPath → content = held) ∧
      (OverwritesInput before medium.chance inputPath outputPath → content = []) := by
  cases channel : file.channel with
  | directory => simp [readAll, channel] at read
  | device kind =>
      cases kind with
      | full => simp [readAll, channel] at read
      | null =>
          have empty : content = [] := by simpa [readAll, channel] using read.symm
          exact ⟨[], by simp [readAll, channel], fun _ => empty, fun _ => empty⟩
  | file location number =>
      obtain ⟨held, heldMode, found⟩ := openForReading_found opened channel
      obtain ⟨-, present⟩ := find_found found
      refine ⟨held, by simp [readAll, channel, FileSystem.content, present], ?_⟩
      by_cases met : location = place.location
      · subst met
        have empty : content = [] := by
          simpa [readAll, channel, FileSystem.content, emptied] using read.symm
        have same := find_refiled resolved takes present (fun _ _ => rfl) rfl
        have overwrites : OverwritesInput before medium.chance inputPath outputPath :=
          ⟨⟨created, output, made, direct⟩, _, _, _, _, found, same⟩
        exact ⟨fun kept => absurd overwrites kept, fun _ => empty⟩
      · have whole : content = held := by
          simpa [readAll, channel, FileSystem.content, others location met, present]
            using read.symm
        refine ⟨fun _ => whole, ?_⟩
        rintro ⟨-, other, _, _, _, input, sameOther⟩
        cases found.symm.trans input
        rw [find, resolve_followed resolved (Place.TakesFile.noLink takes)] at sameOther
        cases place with
        | free location => contradiction
        | taken location entry =>
            cases sameOther
            exact absurd rfl met

/-- What a conversion in place leaves where the output path leads: the rendering of the
input, unless the output is the input. -/
theorem stores_in_place {content : Bytes}
    (opened : before.openForReading inputPath = .ok file)
    (made : Output.create before outputPath newFileMode medium.chance = ⟨created, .ok output⟩)
    (direct : output.target = none) (read : created.readAll file = .ok content)
    (noDevice : ∀ location kind,
      before.find .followed outputPath ≠ .ok (location, .device kind)) :
    let written := (Output.write created output (injector.render inputPath content)).1
    ∃ held location serial mode, before.readAll file = .ok held ∧
      (¬ OverwritesInput before medium.chance inputPath outputPath → content = held) ∧
      (OverwritesInput before medium.chance inputPath outputPath → content = []) ∧
      (Output.commit written.system written.output).system.find .followed outputPath =
        .ok (location, .file serial (injector.render inputPath content) mode) := by
  obtain ⟨next, file, mode, writing, rfl⟩ := Output.create_direct made direct
  obtain ⟨isOpen, start, device | inPlace⟩ := openForWriting_ok writing
  · obtain ⟨location, kind, resolved⟩ := device
    rw [resolve_next] at resolved
    exact absurd resolved (resolve_ne_device noDevice location kind)
  · obtain ⟨place, serial, newMode, resolved, takes, channel, emptied, others, working⟩ := inPlace
    rw [resolve_next] at resolved
    obtain ⟨held, unread, kept, lost⟩ :=
      readAll_of_emptied opened made direct resolved takes emptied others read
    obtain ⟨filled, beyond, sameWorking⟩ := Output.direct_committed isOpen start channel emptied
      (injector.render inputPath content)
    have stored := find_refiled resolved takes filled
      (fun other apart => (beyond other apart).trans (others other apart))
      (sameWorking.trans working)
    exact ⟨held, _, _, _, unread, kept, lost, stored⟩

/-- A conversion that succeeds leaves a file where the output path leads.  It holds the
rendering of what the input held before, unless the output overwrote the input: then the
input was empty when it was read. -/
theorem convert_stores_rendering (faithful : medium.Faithful)
    (succeeded : (injector.convert before inputPath outputPath medium).failure = none)
    (noDevice : ∀ location kind,
      before.find .followed outputPath ≠ .ok (location, .device kind)) :
    ∃ held location serial mode, before.Holds inputPath held ∧
      (¬ OverwritesInput before medium.chance inputPath outputPath →
        (injector.convert before inputPath outputPath medium).system.find .followed outputPath =
          .ok (location, .file serial (injector.render inputPath held) mode)) ∧
      (OverwritesInput before medium.chance inputPath outputPath →
        (injector.convert before inputPath outputPath medium).system.find .followed outputPath =
          .ok (location, .file serial (injector.render inputPath []) mode)) := by
  unfold convert at succeeded ⊢
  cases opened : before.openForReading inputPath with
  | error refusal => simp [opened] at succeeded
  | ok file =>
      rcases made : Output.create before outputPath newFileMode medium.chance with
        ⟨created, fault | output⟩
      · simp [opened, made] at succeeded
      · simp only [opened, made] at succeeded ⊢
        obtain ⟨content, read, committed, result⟩ := transfer_ok faithful succeeded
        rw [result]
        cases direct : output.target with
        | some target =>
            have staged : output.target.isSome := by simp [direct]
            obtain ⟨wanted, started, permitted⟩ := Output.create_staged_mode made staged
            obtain ⟨place, serial, resolved, replaced, others, -, working⟩ :=
              Output.staged_committed started committed
            have held : before.readAll file = .ok content := by
              rw [← Output.readAll_of_createStaged started opened, read]
            have stored :=
              find_refiled resolved (permitted place resolved).1 replaced others working
            refine ⟨content, _, _, _, ⟨file, opened, held⟩, fun _ => stored, ?_⟩
            rintro ⟨⟨_, other, again, unstaged⟩, -⟩
            cases made.symm.trans again
            simp [direct] at unstaged
        | none =>
            obtain ⟨held, location, serial, mode, unread, kept, lost, stored⟩ :=
              stores_in_place opened made direct read noDevice
            refine ⟨held, location, serial, mode, ⟨file, opened, unread⟩,
              fun apart => ?_, fun same => ?_⟩
            · rw [← kept apart]
              exact stored
            · rw [← lost same]
              exact stored

/-- The output is a link to another file, which is longer than what is written to it. -/
theorem convert_stores_rendering_through_link :
    let before : FileSystem :=
      { entries := [([], .directory 0o755), ([ascii "in"], .file 0 (ascii "x") 0o644),
          ([ascii "out"], .link (ascii "old")),
          ([ascii "old"], .file 1 (List.replicate 40 0) 0o640)] }
    let conversion := ({} : Injector).convert before (ascii "/in") (ascii "/out")
    conversion.failure = none ∧ ¬ OverwritesInput before {} (ascii "/in") (ascii "/out") ∧
      before.Holds (ascii "/in") (ascii "x") ∧
      ∃ location serial mode, conversion.system.find .followed (ascii "/out") =
        .ok (location, .file serial (Directive.render 1 (ascii "/in") ++ ascii "x") mode) := by
  intro before conversion
  have succeeded : conversion.failure = none := by decide +kernel
  have input : before.find .followed (ascii "/in") =
      .ok ([ascii "in"], .file 0 (ascii "x") 0o644) := by decide +kernel
  have output : before.find .followed (ascii "/out") =
      .ok ([ascii "old"], .file 1 (List.replicate 40 0) 0o640) := by decide +kernel
  have apart : ¬ OverwritesInput before {} (ascii "/in") (ascii "/out") := by
    rintro ⟨-, location, serial, content, mode, sameInput, sameOutput⟩
    cases input.symm.trans sameInput
    exact absurd (output.symm.trans sameOutput) (by decide +kernel)
  obtain ⟨held, location, serial, mode, holds, stored, -⟩ :=
    convert_stores_rendering faithful_sound succeeded (by simp [output])
  have whole : held = ascii "x" := holds.eq_of_find input
  subst whole
  have rendered : ({} : Injector).render (ascii "/in") (ascii "x") =
      Directive.render 1 (ascii "/in") ++ ascii "x" := by decide +kernel
  rw [rendered] at stored
  exact ⟨succeeded, apart, holds, location, serial, mode, stored apart⟩

/-- The output is a link to the input.  The conversion succeeds, and what the input held is
lost. -/
theorem convert_loses_input_behind_link :
    ¬ ∀ (injector : Injector) (before : FileSystem) (inputPath outputPath : Bytes),
      (injector.convert before inputPath outputPath).failure = none →
      (∀ location kind, before.find .followed outputPath ≠ .ok (location, .device kind)) →
      ∃ held location serial mode, before.Holds inputPath held ∧
        (injector.convert before inputPath outputPath).system.find .followed outputPath =
          .ok (location, .file serial (injector.render inputPath held) mode) := by
  intro kept
  let before : FileSystem :=
    { entries := [([], .directory 0o755), ([ascii "in"], .file 0 (ascii "x") 0o644),
        ([ascii "out"], .link (ascii "in"))] }
  have input : ∀ path ∈ [ascii "/in", ascii "/out"], before.find .followed path =
      .ok ([ascii "in"], .file 0 (ascii "x") 0o644) := by decide +kernel
  obtain ⟨held, location, serial, mode, holds, stored⟩ :=
    kept {} before (ascii "/in") (ascii "/out") (by decide +kernel) (by simp [input])
  have whole : held = ascii "x" := holds.eq_of_find (input _ (by simp))
  subst whole
  have headed : (({} : Injector).convert before (ascii "/in") (ascii "/out")).system.find
      .followed (ascii "/out") =
        .ok ([ascii "in"], .file 0 (Directive.render 1 (ascii "/in")) 0o644) := by decide +kernel
  have same := congrArg Prod.snd (Except.ok.inj (headed.symm.trans stored))
  have shorter : Directive.render 1 (ascii "/in") ≠
      ({} : Injector).render (ascii "/in") (ascii "x") := by decide +kernel
  exact absurd (Entry.file.inj same).2.1 shorter

end Injector

end ImportSplice
