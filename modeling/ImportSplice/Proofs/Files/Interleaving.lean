import ImportSplice.Proofs.Files.Slots

/-!
Staged outputs that are written, closed, committed and given up in any order.  Only a
commit that succeeds changes anything but a staged file: then the entry of its path is the
whole file.  So an entry that several outputs are meant for holds, at any moment, what it
held at the start or everything that the output committed last has taken.
-/

namespace ImportSplice

open FileSystem Output

namespace Session

variable {before : FileSystem} {slots : List Slot} {slot other : Slot} {location : Location}
  {session : Session} {index : Nat} {output : Output}

/-- What one call has done: its output is in use or finished, and no entry has changed but
the staged file and the one that the call replaces. -/
structure Advance (before : FileSystem) (session : Session) (slot : Slot) (call : Call)
    (system : FileSystem) (output : Output) : Prop where
  working : system.working = session.system.working
  others : ∀ location, location ≠ slot.location →
    ¬ (call.replaces = true ∧ before.denoted? slot.request.path = some location) →
    system.lookup? location = session.system.lookup? location
  idle : session.history.finished call.index = true → call.accepted = []
  active : call.act.finishes = false → session.history.finished call.index = false →
    slot.Active system output (session.history.accepted call.index ++ call.accepted)
  settled : call.act.finishes = true ∨ session.history.finished call.index = true →
    slot.Settled system output
  replaced : call.replaces = true → ∀ location,
    before.denoted? slot.request.path = some location →
    (∀ mode, before.lookup? location ≠ some (.directory mode)) ∧
      ∃ serial mode, system.lookup? location =
          some (.file serial (session.history.accepted call.index) mode) ∧
        Mode.permissions mode = Mode.permissions slot.request.mode

section

variable {call : Call} {system : FileSystem} {next : Output}

/-- The staged file of another output is at no location that the call changes. -/
theorem Advance.lookup?_other (advance : Advance before session slot call system next)
    (moored : Moored before slots) (slotted : slots[call.index]? = some slot)
    (differ : index ≠ call.index) (another : slots[index]? = some other) :
    system.lookup? other.location = session.system.lookup? other.location := by
  apply advance.others _ (moored.apart differ another slotted)
  rintro ⟨-, denoted⟩
  exact moored.denoted_ne (List.mem_of_getElem? slotted) denoted (List.mem_of_getElem? another) rfl

theorem Advance.accepted_eq (advance : Advance before session slot call system next)
    (finished : session.history.finished index = true) :
    History.accepted (call :: session.history) index = session.history.accepted index := by
  rw [History.accepted_cons]
  split
  · rename_i same
    subst same
    rw [advance.idle finished, List.append_nil]
  · exact List.append_nil _

theorem Upheld.advance (upheld : Upheld before slots session) (moored : Moored before slots)
    (slotted : slots[call.index]? = some slot)
    (found : session.outputs[call.index]? = some output)
    (advance : Advance before session slot call system next) :
    Upheld before slots
      { system, outputs := session.outputs.set call.index next,
        history := call :: session.history } := by
  have member := List.mem_of_getElem? slotted
  have asked : (slots.map Slot.request)[call.index]? = some slot.request := by simp [slotted]
  have inside : call.index < session.outputs.length := (List.getElem?_eq_some_iff.mp found).1
  refine
    { working := advance.working.trans upheld.working
      length := by rw [List.length_set, upheld.length]
      active := ?active
      settled := ?settled
      untouched := ?untouched
      replaced := ?replaced }
  case active =>
    intro index other output another present going
    rw [History.finished_cons, Bool.or_eq_false_iff] at going
    rw [History.accepted_cons]
    by_cases same : index = call.index
    · subst same
      cases slotted.symm.trans another
      rw [List.getElem?_set_self inside] at present
      cases present
      rw [if_pos rfl]
      exact advance.active (by simpa using going.1) going.2
    · rw [List.getElem?_set_ne (Ne.symm same)] at present
      rw [if_neg (Ne.symm same), List.append_nil]
      exact (upheld.active another present going.2).congr
        (advance.lookup?_other moored slotted same another)
  case settled =>
    intro index other output another present finished
    rw [History.finished_cons, Bool.or_eq_true] at finished
    by_cases same : index = call.index
    · subst same
      cases slotted.symm.trans another
      rw [List.getElem?_set_self inside] at present
      cases present
      exact advance.settled (by simpa using finished)
    · rw [List.getElem?_set_ne (Ne.symm same)] at present
      have earlier : session.history.finished index = true := by
        simpa [beq_eq_false_iff_ne.mpr (Ne.symm same)] using finished
      exact (upheld.settled another present earlier).congr
        (advance.lookup?_other moored slotted same another)
  case untouched =>
    intro location unstaged kept
    rw [History.lastReplacer_cons _ _ asked] at kept
    split at kept
    · contradiction
    · rename_i untouched
      rw [advance.others location (unstaged slot member) untouched]
      exact upheld.untouched unstaged kept
  case replaced =>
    intro location index replaced
    rw [History.lastReplacer_cons _ _ asked] at replaced
    split at replaced
    · rename_i now
      cases replaced
      obtain ⟨plain, serial, mode, present, permitted⟩ := advance.replaced now.1 location now.2
      refine ⟨slot, serial, mode, slotted, now.2, ?_, plain, ?_, permitted⟩
      · simp [History.finished_cons, Call.act_of_replaces now.1, Act.finishes]
      · rw [History.accepted_cons, if_pos rfl, Call.accepted_of_replaces now.1, List.append_nil]
        exact present
    · -- The entry was replaced before, by an output that is finished and takes nothing more.
      rename_i untouched
      obtain ⟨other, serial, mode, another, denoted, finished, plain, present, permitted⟩ :=
        upheld.replaced replaced
      have apart := moored.denoted_ne (List.mem_of_getElem? another) denoted member
      refine ⟨other, serial, mode, another, denoted, ?_, plain, ?_, permitted⟩
      · rw [History.finished_cons, finished, Bool.or_true]
      · rw [advance.accepted_eq finished, advance.others location apart untouched]
        exact present

end

/-- An output takes the place of the entry that its path names and of nothing else: a
directory is never replaced. -/
theorem Upheld.goal_of_lastStep (upheld : Upheld before slots session)
    (moored : Moored before slots) (member : slot ∈ slots) (nonempty : slot.request.path ≠ [])
    {place : Place}
    (stepped : session.system.lastStep slot.directory (Path.split slot.request.path).2 = .ok place)
    (plain : ∀ location mode, place ≠ .taken location (.directory mode)) :
    place.location = slot.goal ∧ before.denoted? slot.request.path = some slot.goal ∧
      ∀ mode, before.lookup? slot.goal ≠ some (.directory mode) := by
  have berth := moored.berth slot member
  obtain ⟨mode, leads, -⟩ := berth.leads
  rcases lastStep_cases (upheld.directory moored leads.found) stepped with
    rfl | ⟨entry, rfl, present⟩ | ⟨proper, rfl⟩
  · exact absurd rfl (plain _ _)
  · -- The directory above a directory is one too, and it stays.
    obtain ⟨above, found⟩ := directory_above moored.tree leads.found
    cases present.symm.trans (upheld.directory moored found)
    exact absurd rfl (plain _ _)
  · refine ⟨placeAt_location .., ?_, ?_⟩
    · rw [denoted?, berth.resolve_target nonempty, lastStep_of_proper leads.found proper]
      exact congrArg some (placeAt_location ..)
    · intro mode present
      have now := upheld.directory moored present
      apply plain slot.goal mode
      change session.system.placeAt slot.goal = _
      rw [placeAt, now]

section

variable {act : Act} {step : Step} {count : Nat}

theorem Upheld.of_finished (upheld : Upheld before slots session)
    (slotted : slots[index]? = some slot) (found : session.outputs[index]? = some output)
    (finished : session.history.finished index = true)
    (performed : Output.perform session.system output act = (step, count)) :
    Advance before session slot { index, act, count, failure := step.failure }
      step.system step.output := by
  have settled := upheld.settled slotted found finished
  obtain ⟨unchanged, same, nothing, failed⟩ :=
    perform_of_finished session.system settled.finished settled.shut act
  simp only [performed] at unchanged same nothing failed
  rw [unchanged, same]
  exact
    { working := rfl
      others := fun _ _ _ => rfl
      idle := fun _ => nothing
      active := fun _ going => absurd (finished.symm.trans going) (by simp)
      settled := fun _ => settled
      replaced := fun replaces => absurd replaces (Call.not_replaces failed) }

theorem Upheld.of_outcome (upheld : Upheld before slots session) (moored : Moored before slots)
    (slotted : slots[index]? = some slot) (found : session.outputs[index]? = some output)
    (going : session.history.finished index = false) {mode : Nat}
    (permitted : Mode.permissions mode = Mode.permissions slot.request.mode)
    (outcome : Outcome session.system output slot.request.path slot.directory slot.number
      slot.serial (session.history.accepted index) mode act step count) :
    Advance before session slot { index, act, count, failure := step.failure }
      step.system step.output := by
  have member := List.mem_of_getElem? slotted
  have active := upheld.active slotted found going
  have inUse : ∀ {result : Prop}, session.history.finished index = true → result :=
    fun finished => absurd (going.symm.trans finished) (by simp)
  cases outcome with
  | stays newMode unfinished newPermitted beside others working =>
      exact
        { working := working
          others := fun location apart _ => others location apart
          idle := inUse
          active := fun _ _ => ⟨beside.named, beside.channel, beside.target, beside.unfinished,
            beside.written, newMode, beside.present, newPermitted.trans permitted⟩
          settled := fun ended => ended.elim
            (fun finishes => absurd (unfinished.symm.trans finishes) (by simp)) inUse
          replaced := fun replaces => absurd replaces
            (Call.not_replaces (by rintro rfl; contradiction)) }
  | goes finishes failed settled erased =>
      have lookup : ∀ location, step.system.lookup? location =
          if location = slot.location then none else session.system.lookup? location := by
        intro location
        rw [erased, lookup?_erase]
        rfl
      exact
        { working := by rw [erased]; rfl
          others := fun location apart _ => by rw [lookup, if_neg apart]
          idle := inUse
          active := fun unfinished => absurd (finishes.symm.trans unfinished) (by simp)
          settled := fun _ => by
            rw [settled]
            exact Slot.settled_of_active active (by rw [lookup, if_pos rfl])
          replaced := fun replaces => absurd replaces (Call.not_replaces failed) }
  | replaces place committed succeeded settled nonempty stepped plain moved =>
      obtain ⟨placed, denoted, noDirectory⟩ :=
        upheld.goal_of_lastStep moored member nonempty stepped plain
      subst committed
      have lookup : ∀ location, step.system.lookup? location =
          if location = slot.goal then
            some (.file slot.serial (session.history.accepted index) mode)
          else if location = slot.location then none
          else session.system.lookup? location := by
        intro location
        rw [moved, placed, lookup?_insert, lookup?_erase]
        rfl
      exact
        { working := by rw [moved]; rfl
          others := fun location apart kept => by
            have elsewhere : location ≠ slot.goal := by
              rintro rfl
              exact kept ⟨by simp [Call.replaces, succeeded], denoted⟩
            rw [lookup, if_neg elsewhere, if_neg apart]
          idle := inUse
          active := fun unfinished => absurd unfinished (by simp [Act.finishes])
          settled := fun _ => by
            rw [settled]
            apply Slot.settled_of_active active
            rw [lookup, if_neg (moored.goal_ne member slot).symm, if_pos rfl]
          replaced := fun _ location there => by
            cases denoted.symm.trans there
            exact ⟨noDirectory, slot.serial, mode, by rw [lookup, if_pos rfl], permitted⟩ }

end

theorem Upheld.call (upheld : Upheld before slots session) (moored : Moored before slots)
    (index : Nat) (act : Act) : Upheld before slots (session.call index act) := by
  unfold Session.call
  split
  · exact upheld
  · rename_i output found
    have inside : index < slots.length := by
      rw [← upheld.length]
      exact (List.getElem?_eq_some_iff.mp found).1
    have slotted := List.getElem?_eq_getElem inside
    rcases performed : Output.perform session.system output act with ⟨step, count⟩
    have advance : Advance before session slots[index]
        { index, act, count, failure := step.failure } step.system step.output := by
      cases finished : session.history.finished index with
      | true => exact upheld.of_finished slotted found finished performed
      | false =>
          obtain ⟨mode, permitted, beside⟩ := upheld.beside moored slotted found finished
          have outcome := beside.outcome act
          rw [performed] at outcome
          exact upheld.of_outcome moored slotted found finished permitted outcome
    exact upheld.advance moored slotted found advance

theorem Upheld.run (upheld : Upheld before slots session) (moored : Moored before slots)
    (acts : List (Nat × Act)) : Upheld before slots (session.run acts) := by
  induction acts generalizing session with
  | nil => exact upheld
  | cons first rest inductionHypothesis =>
      exact inductionHypothesis (upheld.call moored first.1 first.2)

theorem Upheld.output_at (upheld : Upheld before slots session) (moored : Moored before slots)
    (found : session.outputs[index]? = some output) :
    (∃ location serial mode, output.file.channel = .file location serial ∧
      before.lookup? location = none ∧
      session.system.lookup? location =
        if session.history.finished index then none
        else some (.file serial (session.history.accepted index) mode)) ∧
    (session.history.finished index = true → output.finished = true) := by
  have inside : index < slots.length := by
    rw [← upheld.length]
    exact (List.getElem?_eq_some_iff.mp found).1
  have slotted := List.getElem?_eq_getElem inside
  have free := moored.free _ (List.getElem_mem inside)
  cases finished : session.history.finished index with
  | false =>
      have active := upheld.active slotted found finished
      obtain ⟨mode, present, -⟩ := active.present
      exact ⟨⟨_, _, mode, active.channel, free, present⟩, by simp⟩
  | true =>
      have settled := upheld.settled slotted found finished
      exact ⟨⟨_, _, 0, settled.channel, free, settled.absent⟩, fun _ => settled.finished⟩

/-- Outputs are staged for paths that bear no staged name and whose directory parts lead
through no link that another output may replace, and are then used in any order.  At every
moment

* an output has its staged file, with all it has taken, until it is committed or given up;
* a finished output cannot be committed again, and giving it up does nothing;
* the entry of a path is as it was unless a commit there succeeded, and then it is a file
  with all that the output of the last such commit has taken, and with its permissions. -/
theorem run_replaces_whole {requests : List Request} {opened : Session}
    (tree : before.isTree = true) (started : start before requests = .ok opened)
    (unstaged : ∀ request ∈ requests, ¬ IsStagedName (Path.split request.path).2)
    (uncrossed : ∀ (i j : Nat) (first second : Request) (location : Location) (target : Bytes),
      i ≠ j → requests[i]? = some first → requests[j]? = some second →
      before.denoted? second.path = some location →
      before.lookup? location = some (.link target) →
      location ∉ before.directoryTrail first.path)
    (acts : List (Nat × Act)) :
    let session := opened.run acts
    session.outputs.length = requests.length ∧
      (∀ index output, session.outputs[index]? = some output →
        (∃ location serial mode, output.file.channel = .file location serial ∧
          before.lookup? location = none ∧
          session.system.lookup? location =
            if session.history.finished index then none
            else some (.file serial (session.history.accepted index) mode)) ∧
        (session.history.finished index = true →
          Output.commit session.system output =
              { system := session.system, output, failure := some (.kind .alreadyFinished) } ∧
            Output.abort session.system output =
              { system := session.system, output, failure := none })) ∧
      ∀ request ∈ requests, ∀ location, before.denoted? request.path = some location →
        match session.history.lastReplacer before requests location with
        | none => session.system.lookup? location = before.lookup? location
        | some index => ∃ committed serial mode, requests[index]? = some committed ∧
            session.system.lookup? location =
              some (.file serial (session.history.accepted index) mode) ∧
            Mode.permissions mode = Mode.permissions committed.mode := by
  obtain ⟨slots, rfl, fresh⟩ := fresh_of_start started
  have moored : Moored before slots :=
    { tree := tree
      berth := fresh.berth
      free := fresh.free
      nodup := fresh.nodup
      unstaged := fun slot member => unstaged slot.request (List.mem_map_of_mem member)
      uncrossed := fun differ first second => uncrossed _ _ _ _ _ _ differ
        (by simp [first]) (by simp [second]) }
  intro session
  have upheld : Upheld before slots session := fresh.upheld.run moored acts
  refine ⟨by rw [upheld.length, List.length_map], ?_, ?_⟩
  · intro index output found
    obtain ⟨staged, ended⟩ := upheld.output_at moored found
    refine ⟨staged, fun finished => ⟨?_, ?_⟩⟩
    · rw [Output.commit, if_pos (ended finished)]
    · rw [Output.abort, if_pos (ended finished)]
  · intro request asked location denoted
    obtain ⟨slot, member, rfl⟩ := List.mem_map.mp asked
    split
    · rename_i kept
      exact upheld.untouched (fun other => moored.denoted_ne member denoted) kept
    · rename_i index replaced
      obtain ⟨committed, serial, mode, slotted, -, -, -, present, permitted⟩ :=
        upheld.replaced replaced
      exact ⟨committed.request, serial, mode, by simp [slotted], present, permitted⟩

/-- Two outputs for one path behind a link.  The second is closed too early and cannot be
committed, so the file of the first stays. -/
theorem run_replaces_whole_despite_closed_output :
    let before : FileSystem :=
      { entries := [([], .directory 0o755), ([ascii "d"], .directory 0o755),
          ([ascii "l"], .link (ascii "d")), ([ascii "t", ascii "d"], .file 0 (ascii "old") 0o600)] }
    let requests : List Request :=
      [{ path := ascii "/l/t", mode := 0o640 }, { path := ascii "/l/t", mode := 0o604 }]
    let acts : List (Nat × Act) :=
      [(0, .write (ascii "a")), (1, .write (ascii "b")), (0, .write (ascii "c")), (0, .commit),
        (1, .close), (1, .commit), (0, .abort)]
    ∃ opened, start before requests = .ok opened ∧
      (∀ output ∈ (opened.run acts).outputs, ∃ location serial,
        output.file.channel = .file location serial ∧
        (opened.run acts).system.lookup? location = none) ∧
      ∃ serial mode, (opened.run acts).system.lookup? [ascii "t", ascii "d"] =
          some (.file serial (ascii "ac") mode) ∧ Mode.permissions mode = 0o640 := by
  intro before requests acts
  have chosen : (start before requests).toOption.map (fun opened =>
      let history := (opened.run acts).history
      (history.lastReplacer before requests [ascii "t", ascii "d"], history.accepted 0,
        (List.range 2).all history.finished)) = some (some 0, ascii "ac", true) := by
    decide +kernel
  have short : ∀ request ∈ requests, (Path.split request.path).2.length ≤ 5 := by decide +kernel
  have denoted : ∀ request ∈ requests,
      before.denoted? request.path = some [ascii "t", ascii "d"] := by decide +kernel
  have held : before.lookup? [ascii "t", ascii "d"] = some (.file 0 (ascii "old") 0o600) := by
    decide +kernel
  cases started : start before requests with
  | error fault =>
      rw [started] at chosen
      contradiction
  | ok opened =>
      rw [started] at chosen
      obtain ⟨last, taken, finished⟩ :
          (opened.run acts).history.lastReplacer before requests [ascii "t", ascii "d"] = some 0 ∧
          (opened.run acts).history.accepted 0 = ascii "ac" ∧
          ∀ index < 2, (opened.run acts).history.finished index = true := by
        simpa [Except.toOption] using chosen
      obtain ⟨length, staged, replaced⟩ := run_replaces_whole (by decide +kernel) started
        (fun request member staged => absurd staged.length_gt (Nat.not_lt.mpr (short request member)))
        (by
          intro i j former latter location target differ _ asked there linked
          cases (denoted latter (List.mem_of_getElem? asked)).symm.trans there
          cases held.symm.trans linked)
        acts
      refine ⟨opened, rfl, ?_, ?_⟩
      · intro output member
        obtain ⟨index, found⟩ := List.mem_iff_getElem?.mp member
        obtain ⟨⟨location, serial, mode, channel, -, present⟩, -⟩ := staged index output found
        have inside : index < 2 :=
          Nat.lt_of_lt_of_eq (List.getElem?_eq_some_iff.mp found).1 length
        rw [finished index inside] at present
        exact ⟨location, serial, channel, present⟩
      · have member : { path := ascii "/l/t", mode := 0o640 } ∈ requests := List.mem_cons_self
        have whole := replaced _ member [ascii "t", ascii "d"] (denoted _ member)
        rw [last] at whole
        obtain ⟨committed, serial, mode, asked, present, permitted⟩ := whole
        rw [taken] at present
        cases asked
        exact ⟨serial, mode, present, permitted⟩

/-- Two outputs for a path that leads through the link it ends in.  Once the first has
replaced the link, the staged file of the second is out of reach and stays. -/
theorem staged_file_outlives_abort :
    ¬ ∀ (before : FileSystem) (requests : List Request) (opened : Session)
        (acts : List (Nat × Act)),
      before.isTree = true → start before requests = .ok opened →
      (∀ request ∈ requests, ¬ IsStagedName (Path.split request.path).2) →
      (∀ first ∈ requests, ∀ second ∈ requests, first.path ≠ second.path →
        ∀ location, before.denoted? second.path = some location →
          location ∉ before.directoryTrail first.path) →
      ∀ index output location serial, (opened.run acts).outputs[index]? = some output →
        output.file.channel = .file location serial →
        (((opened.run acts).system.lookup? location).isSome ↔
          (opened.run acts).history.finished index = false) := by
  intro removed
  let before : FileSystem :=
    { entries := [([], .directory 0o755), ([ascii "e"], .directory 0o755),
        ([ascii "l"], .link (ascii "e"))] }
  let requests : List Request :=
    [{ path := ascii "/l/../l", mode := 0o644 }, { path := ascii "/l/../l", mode := 0o644 }]
  let acts : List (Nat × Act) := [(0, .commit), (1, .abort)]
  have left : (start before requests).toOption.map (fun opened =>
      let session := opened.run acts
      (session.outputs[1]?.map (·.file.channel),
        (session.system.lookup? [ascii ".l.tmp-1"]).isSome, session.history.finished 1)) =
      some (some (.file [ascii ".l.tmp-1"] 1), true, true) := by
    decide +kernel
  have short : ∀ request ∈ requests, (Path.split request.path).2.length ≤ 5 := by decide +kernel
  have shared : ∀ first ∈ requests, ∀ second ∈ requests, first.path = second.path := by
    decide +kernel
  cases started : start before requests with
  | error fault =>
      rw [started] at left
      contradiction
  | ok opened =>
      rw [started] at left
      obtain ⟨⟨output, found, channel⟩, present, finished⟩ :
          (∃ output, (opened.run acts).outputs[1]? = some output ∧
            output.file.channel = .file [ascii ".l.tmp-1"] 1) ∧
          ((opened.run acts).system.lookup? [ascii ".l.tmp-1"]).isSome = true ∧
          (opened.run acts).history.finished 1 = true := by
        simpa [Except.toOption] using left
      have gone := (removed before requests opened acts (by decide +kernel) started
        (fun request member staged => absurd staged.length_gt (Nat.not_lt.mpr (short request member)))
        (fun first one second two differ => absurd (shared first one second two) differ)
        1 output [ascii ".l.tmp-1"] 1 found channel).mp present
      rw [finished] at gone
      contradiction

end Session

end ImportSplice
