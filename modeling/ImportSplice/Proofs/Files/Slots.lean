import ImportSplice.Proofs.Files.Session

/-!
Slots: where the outputs of a session are staged.  Each output has its staged file to
itself until it is finished, and every other entry is as it was or has been replaced by a
whole file.  This holds of a session that has just been started, and it is enough for every
output in use to be found by its path.
-/

namespace ImportSplice

namespace FileSystem

/-- Every entry is in a directory. -/
def isTree (system : FileSystem) : Bool :=
  system.entries.all fun pair =>
    match system.lookup? pair.1.tail with
    | some (.directory _) => true
    | _ => false

theorem directory_above {system : FileSystem} {location : Location} {entry : Entry}
    (tree : system.isTree = true) (present : system.lookup? location = some entry) :
    ∃ mode, system.lookup? location.tail = some (.directory mode) := by
  obtain ⟨before, after, split, -⟩ := List.lookup_eq_some_iff.mp present
  have held := List.all_eq_true.mp tree (location, entry) (by simp [split])
  dsimp only at held
  split at held
  · rename_i mode above
    exact ⟨mode, above⟩
  · contradiction

theorem Fills.lookup?_of_ne {before after : FileSystem} {location other : Location}
    {entry found : Entry} (fills : Fills before after location entry)
    (present : after.lookup? other = some found) (apart : found ≠ entry) :
    before.lookup? other = some found := by
  rw [← fills.others other, present]
  rintro rfl
  exact apart (Option.some.inj (present.symm.trans fills.filled))

end FileSystem

open FileSystem Output

/-- Where the output for a request is staged. -/
structure Slot where
  request : Request
  directory : Location
  number : Nat
  serial : Nat

namespace Slot

def location (slot : Slot) : Location := stagedAt slot.request.path slot.directory slot.number

/-- The entry that the path of the request names in its directory. -/
def goal (slot : Slot) : Location := (Path.split slot.request.path).2 :: slot.directory

/-- An output that is in use, with what it has taken. -/
structure Active (slot : Slot) (system : FileSystem) (output : Output) (content : Bytes) :
    Prop where
  named : output.file.path = stagedPath slot.request.path slot.number
  channel : output.file.channel = .file slot.location slot.serial
  target : output.target = some slot.request.path
  unfinished : output.finished = false
  written : output.file.offset = content.length
  present : ∃ mode, system.lookup? slot.location = some (.file slot.serial content mode) ∧
    Mode.permissions mode = Mode.permissions slot.request.mode

/-- An output that is finished: its staged file is gone. -/
structure Settled (slot : Slot) (system : FileSystem) (output : Output) : Prop where
  channel : output.file.channel = .file slot.location slot.serial
  finished : output.finished = true
  shut : output.file.isOpen = false
  absent : system.lookup? slot.location = none

variable {slot : Slot} {system after : FileSystem} {output : Output} {content : Bytes}

theorem Active.congr (active : slot.Active system output content)
    (same : after.lookup? slot.location = system.lookup? slot.location) :
    slot.Active after output content :=
  { active with present := by rw [same]; exact active.present }

theorem Settled.congr (settled : slot.Settled system output)
    (same : after.lookup? slot.location = system.lookup? slot.location) :
    slot.Settled after output :=
  { settled with absent := by rw [same]; exact settled.absent }

theorem settled_of_active (active : slot.Active system output content)
    (absent : after.lookup? slot.location = none) : slot.Settled after output.settled where
  channel := active.channel
  finished := rfl
  shut := rfl
  absent := absent

end Slot

namespace Session

/-- Slots for outputs that do not get into each other's way. -/
structure Moored (before : FileSystem) (slots : List Slot) : Prop where
  tree : before.isTree = true
  berth : ∀ slot ∈ slots, Berth before slot.request.path slot.directory slot.number
  free : ∀ slot ∈ slots, before.lookup? slot.location = none
  nodup : (slots.map Slot.location).Nodup
  unstaged : ∀ slot ∈ slots, ¬ IsStagedName (Path.split slot.request.path).2
  uncrossed : ∀ {i j : Nat} {first second : Slot} {location : Location} {target : Bytes}, i ≠ j →
    slots[i]? = some first → slots[j]? = some second →
    before.denoted? second.request.path = some location →
    before.lookup? location = some (.link target) →
    location ∉ before.directoryTrail first.request.path

variable {before : FileSystem} {slots : List Slot} {slot other : Slot} {location : Location}

theorem Moored.apart (moored : Moored before slots) {i j : Nat} (differ : i ≠ j)
    (first : slots[i]? = some slot) (second : slots[j]? = some other) :
    slot.location ≠ other.location := by
  intro same
  apply differ
  apply (List.getElem?_inj (by simpa using (List.getElem?_eq_some_iff.mp first).1) moored.nodup).mp
  simp [first, second, same]

theorem Moored.goal_ne (moored : Moored before slots) (member : slot ∈ slots) (other : Slot) :
    slot.goal ≠ other.location := by
  intro same
  apply moored.unstaged slot member
  exact ⟨_, other.number, (List.cons.inj same).1⟩

theorem Moored.denoted_cases (moored : Moored before slots) (member : slot ∈ slots)
    (denoted : before.denoted? slot.request.path = some location) :
    location = slot.goal ∨ ∃ entry, before.lookup? location = some entry := by
  unfold denoted? at denoted
  split at denoted
  · rename_i place resolved
    cases denoted
    have berth := moored.berth slot member
    rw [berth.resolve_target (resolve_ok resolved).2.1] at resolved
    obtain ⟨mode, leads, -⟩ := berth.leads
    rcases lastStep_cases leads.found resolved with rfl | ⟨entry, rfl, present⟩ | ⟨-, rfl⟩
    · exact .inr ⟨_, leads.found⟩
    · exact .inr ⟨_, present⟩
    · exact .inl (placeAt_location ..)
  · contradiction

theorem Moored.denoted_ne (moored : Moored before slots) (member : slot ∈ slots)
    (denoted : before.denoted? slot.request.path = some location) (another : other ∈ slots) :
    location ≠ other.location := by
  rcases moored.denoted_cases member denoted with rfl | ⟨entry, present⟩
  · exact moored.goal_ne member other
  · rintro rfl
    rw [moored.free other another] at present
    contradiction

/-- What holds of a session at every moment. -/
structure Upheld (before : FileSystem) (slots : List Slot) (session : Session) : Prop where
  working : session.system.working = before.working
  length : session.outputs.length = slots.length
  active : ∀ {index slot output}, slots[index]? = some slot →
    session.outputs[index]? = some output → session.history.finished index = false →
    slot.Active session.system output (session.history.accepted index)
  settled : ∀ {index slot output}, slots[index]? = some slot →
    session.outputs[index]? = some output → session.history.finished index = true →
    slot.Settled session.system output
  untouched : ∀ {location}, (∀ slot ∈ slots, location ≠ slot.location) →
    session.history.lastReplacer before (slots.map Slot.request) location = none →
    session.system.lookup? location = before.lookup? location
  replaced : ∀ {location index},
    session.history.lastReplacer before (slots.map Slot.request) location = some index →
    ∃ slot serial mode, slots[index]? = some slot ∧
      before.denoted? slot.request.path = some location ∧
      session.history.finished index = true ∧
      (∀ mode, before.lookup? location ≠ some (.directory mode)) ∧
      session.system.lookup? location =
        some (.file serial (session.history.accepted index) mode) ∧
      Mode.permissions mode = Mode.permissions slot.request.mode

variable {session : Session} {index : Nat} {output : Output}

theorem Upheld.lookup?_eq (upheld : Upheld before slots session) (moored : Moored before slots)
    {entry : Entry} (present : before.lookup? location = some entry)
    (kept : session.history.lastReplacer before (slots.map Slot.request) location = none) :
    session.system.lookup? location = some entry := by
  rw [upheld.untouched _ kept, present]
  rintro slot member rfl
  rw [moored.free slot member] at present
  contradiction

theorem Upheld.directory (upheld : Upheld before slots session) (moored : Moored before slots)
    {mode : Nat} (present : before.lookup? location = some (.directory mode)) :
    session.system.lookup? location = some (.directory mode) := by
  apply upheld.lookup?_eq moored present
  by_contra replaced
  obtain ⟨index, replaced⟩ := Option.ne_none_iff_exists'.mp replaced
  obtain ⟨-, -, -, -, -, -, plain, -⟩ := upheld.replaced replaced
  exact plain mode present

/-- The links on the way of an output in use are there: each is the entry of no other
output, and this one has replaced nothing yet. -/
theorem Upheld.link (upheld : Upheld before slots session) (moored : Moored before slots)
    (slotted : slots[index]? = some slot) (going : session.history.finished index = false)
    (crossed : location ∈ before.directoryTrail slot.request.path) {target : Bytes}
    (linked : before.lookup? location = some (.link target)) :
    session.system.lookup? location = some (.link target) := by
  apply upheld.lookup?_eq moored linked
  by_contra replaced
  obtain ⟨replacer, replaced⟩ := Option.ne_none_iff_exists'.mp replaced
  obtain ⟨other, -, -, another, denoted, finished, -⟩ := upheld.replaced replaced
  have differ : index ≠ replacer := by
    rintro rfl
    rw [going] at finished
    contradiction
  exact moored.uncrossed differ slotted another denoted linked crossed

theorem Upheld.beside (upheld : Upheld before slots session) (moored : Moored before slots)
    (slotted : slots[index]? = some slot) (found : session.outputs[index]? = some output)
    (going : session.history.finished index = false) :
    ∃ mode, Mode.permissions mode = Mode.permissions slot.request.mode ∧
      Beside session.system output slot.request.path slot.directory slot.number slot.serial
        (session.history.accepted index) mode := by
  have active := upheld.active slotted found going
  obtain ⟨mode, present, permitted⟩ := active.present
  have berth := (moored.berth slot (List.mem_of_getElem? slotted)).along upheld.working
    (fun _ _ => upheld.directory moored)
    (fun _ crossed _ => upheld.link moored slotted going crossed)
  exact ⟨mode, permitted, berth, active.named, active.channel, active.target, active.unfinished,
    active.written, present⟩

/-- A session whose outputs have just been staged. -/
structure Fresh (before : FileSystem) (slots : List Slot) (session : Session) : Prop where
  berth : ∀ slot ∈ slots, Berth before slot.request.path slot.directory slot.number
  free : ∀ slot ∈ slots, before.lookup? slot.location = none
  nodup : (slots.map Slot.location).Nodup
  uncalled : session.history = []
  working : session.system.working = before.working
  length : session.outputs.length = slots.length
  active : ∀ {index : Nat} {slot : Slot} {output : Output}, slots[index]? = some slot →
    session.outputs[index]? = some output → slot.Active session.system output []
  others : ∀ location, (∀ slot ∈ slots, location ≠ slot.location) →
    session.system.lookup? location = before.lookup? location

theorem Fresh.cons {created : FileSystem} (fresh : Fresh created slots session)
    {request : Request}
    (made : createStaged before request.path request.mode request.chance =
      ⟨created, .ok output⟩) :
    ∃ slot : Slot, slot.request = request ∧
      Fresh before (slot :: slots) { session with outputs := output :: session.outputs } := by
  obtain ⟨directory, number, serial, berth, beside, -, fills⟩ := createStaged_beside made
  refine ⟨⟨request, directory, number, serial⟩, rfl, ?_⟩
  have earlier : ∀ {location entry}, (∀ serial content mode, entry ≠ .file serial content mode) →
      created.lookup? location = some entry → before.lookup? location = some entry :=
    fun noFile present => fills.lookup?_of_ne present (noFile _ _ _)
  have apart : ∀ slot ∈ slots, stagedAt request.path directory number ≠ slot.location := by
    intro slot member same
    have free := fresh.free slot member
    rw [← same, fills.filled] at free
    contradiction
  refine
    { berth := ?_
      free := ?_
      nodup := ?_
      uncalled := fresh.uncalled
      working := fresh.working.trans fills.working
      length := congrArg (· + 1) fresh.length
      active := ?_
      others := ?_ }
  · intro slot member
    rcases List.mem_cons.mp member with rfl | later
    · exact berth
    · exact (fresh.berth slot later).along fills.working.symm (fun _ _ => earlier (by simp))
        (fun _ _ _ => earlier (by simp))
  · intro slot member
    rcases List.mem_cons.mp member with rfl | later
    · exact fills.free
    · rw [← fills.others _ (apart slot later).symm]
      exact fresh.free slot later
  · rw [List.map_cons, List.nodup_cons]
    refine ⟨?_, fresh.nodup⟩
    intro member
    obtain ⟨slot, later, same⟩ := List.mem_map.mp member
    exact apart slot later same.symm
  · intro index slot output slotted found
    cases index with
    | zero =>
        cases slotted
        cases found
        have kept := fresh.others _ apart
        exact ⟨beside.named, beside.channel, beside.target, beside.unfinished, beside.written,
          Mode.bits request.mode, kept.trans beside.present, Mode.permissions_bits request.mode⟩
    | succ index => exact fresh.active slotted found
  · intro location unstaged
    rw [fresh.others location fun slot later => unstaged slot (List.mem_cons_of_mem _ later)]
    exact fills.others location (unstaged ⟨request, directory, number, serial⟩ List.mem_cons_self)

theorem fresh_of_start {requests : List Request}
    (started : start before requests = .ok session) :
    ∃ slots : List Slot, slots.map Slot.request = requests ∧ Fresh before slots session := by
  -- The later outputs are staged in the file system that the first one leaves.
  induction requests generalizing before session with
  | nil =>
      cases started
      exact ⟨[], rfl, by constructor <;> simp⟩
  | cons request rest inductionHypothesis =>
      rw [start] at started
      split at started
      · contradiction
      · rename_i created output made
        split at started
        · contradiction
        · rename_i opened later
          cases started
          obtain ⟨slots, asked, fresh⟩ := inductionHypothesis later
          obtain ⟨slot, same, longer⟩ := fresh.cons made
          exact ⟨slot :: slots, by rw [List.map_cons, same, asked], longer⟩

theorem Fresh.upheld (fresh : Fresh before slots session) : Upheld before slots session where
  working := fresh.working
  length := fresh.length
  active := fun slotted found _ => by
    rw [fresh.uncalled]
    exact fresh.active slotted found
  settled := fun _ _ finished => by
    rw [fresh.uncalled] at finished
    contradiction
  untouched := fun unstaged _ => fresh.others _ unstaged
  replaced := fun replaced => by
    rw [fresh.uncalled] at replaced
    contradiction

end Session

end ImportSplice
