import ImportSplice.Proofs.Files.Filling

/-!
Paths up to their last name.  The names before the last one lead into a directory, and
the last name is then looked up there alone.  On the way into the directory a walk sees
directories and the links on its trail and nothing else, so it arrives at the same
directory in every file system that has those.
-/

namespace ImportSplice

def Place.location : Place → Location
  | .taken location _ => location
  | .free location => location

namespace FileSystem

/-- The locations that names are looked up at, one after another.  At a link, `jump`
goes on with the names that the link stands for. -/
def trailFrom (system : FileSystem) (jump : Location → List Bytes → List Location)
    (here : Location) : List Bytes → List Location
  | [] => []
  | name :: rest =>
      if name.isEmpty || name == ascii "." then trailFrom system jump here rest
      else if name == ascii ".." then trailFrom system jump here.tail rest
      else (name :: here) ::
        match system.lookup? (name :: here) with
        | some (.link target) => jump (origin here target) (names target ++ rest)
        | _ => trailFrom system jump (name :: here) rest

/-- The locations that a walk over at most a number of links leads through. -/
def trail (system : FileSystem) : (links : Nat) → Location → List Bytes → List Location
  | 0 => trailFrom system fun _ _ => []
  | links + 1 => trailFrom system (trail system links)

def leading (path : Bytes) : List Bytes := (names path).dropLast

/-- The locations that the directory part of a path leads through. -/
def directoryTrail (system : FileSystem) (path : Bytes) : List Location :=
  system.trail maxLinks (origin system.working path) (leading path)

/-- The directory part of a path leads to a directory with a mode. -/
def LeadsInto (system : FileSystem) (path : Bytes) (directory : Location) (mode : Nat) : Prop :=
  Reaches system .followed maxLinks (origin system.working path) (leading path)
    (.taken directory (.directory mode))

variable {system other : FileSystem} {last : LastName} {links mode : Nat}
  {here directory : Location} {name : Bytes} {rest path front : List Bytes} {place : Place}

theorem Reaches.found {location : Location} {entry : Entry}
    (reached : Reaches system last links here path (.taken location entry)) :
    system.lookup? location = some entry := by
  generalize arrived : Place.taken location entry = place at reached
  induction reached with
  | arrive found =>
      cases arrived
      exact found
  | free found proper absent => contradiction
  | keep found proper linked kept =>
      cases arrived
      exact linked
  | stay found same later inductionHypothesis => exact inductionHypothesis arrived
  | rise found searchable later inductionHypothesis => exact inductionHypothesis arrived
  | follow found proper linked followed later inductionHypothesis =>
      exact inductionHypothesis arrived
  | enter found proper present noLink later inductionHypothesis =>
      exact inductionHypothesis arrived

theorem Proper.before (proper : Proper last mode name rest) {next : LastName}
    (opens : next ≠ .created) (rest : List Bytes) : Proper next mode name rest :=
  { proper with noSlash := by cases next <;> simp_all }

theorem trail_stay (same : name.isEmpty = true ∨ name = ascii ".") :
    system.trail links here (name :: rest) = system.trail links here rest := by
  have skipped : (name.isEmpty || name == ascii ".") = true := by simpa using same
  cases links <;> simp only [trail, trailFrom, skipped, if_true]

theorem trail_rise :
    system.trail links here (ascii ".." :: rest) = system.trail links here.tail rest := by
  cases links <;> rfl

theorem trail_follow {target : Bytes} (proper : Proper last mode name rest)
    (linked : system.lookup? (name :: here) = some (.link target)) :
    system.trail (links + 1) here (name :: rest) =
      (name :: here) :: system.trail links (origin here target) (names target ++ rest) := by
  simp only [trail, trailFrom, proper.named, proper.notCurrent, proper.notParent, linked,
    Bool.or_self, Bool.false_eq_true, if_false]

theorem trail_enter {entry : Entry} (proper : Proper last mode name rest)
    (present : system.lookup? (name :: here) = some entry)
    (noLink : ∀ target, entry ≠ .link target) :
    system.trail links here (name :: rest) =
      (name :: here) :: system.trail links (name :: here) rest := by
  cases entry with
  | link target => exact absurd rfl (noLink target)
  | file serial content fileMode =>
      cases links <;> simp only [trail, trailFrom, proper.named, proper.notCurrent,
        proper.notParent, present, Bool.or_self, Bool.false_eq_true, if_false]
  | directory directoryMode =>
      cases links <;> simp only [trail, trailFrom, proper.named, proper.notCurrent,
        proper.notParent, present, Bool.or_self, Bool.false_eq_true, if_false]
  | device kind =>
      cases links <;> simp only [trail, trailFrom, proper.named, proper.notCurrent,
        proper.notParent, present, Bool.or_self, Bool.false_eq_true, if_false]

/-- A file system with the directories of another one and with the links that a walk into
a directory leads through leads the walk to the same directory. -/
theorem Reaches.along
    (reached : Reaches system .followed links here path (.taken directory (.directory mode)))
    (directories : ∀ location mode, system.lookup? location = some (.directory mode) →
      other.lookup? location = some (.directory mode))
    (crossed : ∀ location ∈ system.trail links here path, ∀ target,
      system.lookup? location = some (.link target) →
      other.lookup? location = some (.link target)) :
    Reaches other .followed links here path (.taken directory (.directory mode)) := by
  generalize arrived : Place.taken directory (.directory mode) = place at reached ⊢
  induction reached with
  | arrive found =>
      cases arrived
      exact .arrive (directories _ _ found)
  | free found proper absent => contradiction
  | keep found proper linked kept => contradiction
  | stay found same later inductionHypothesis =>
      rw [trail_stay (same.imp_right And.right)] at crossed
      exact .stay (directories _ _ found) same (inductionHypothesis crossed arrived)
  | rise found searchable later inductionHypothesis =>
      rw [trail_rise] at crossed
      exact .rise (directories _ _ found) searchable (inductionHypothesis crossed arrived)
  | follow found proper linked followed later inductionHypothesis =>
      rw [trail_follow proper linked] at crossed
      refine .follow (directories _ _ found) proper (crossed _ (by simp) _ linked) followed
        (inductionHypothesis (fun location member => ?_) arrived)
      exact crossed location (List.mem_cons_of_mem _ member)
  | @enter links here _ name rest entry place found proper present noLink later
      inductionHypothesis =>
      rw [trail_enter proper present noLink] at crossed
      -- The walk goes on to a directory, so what it enters is one.
      have entered : ∃ mode, entry = .directory mode := by
        cases later with
        | arrive again =>
            cases arrived
            exact ⟨_, Option.some.inj (present.symm.trans again)⟩
        | stay again | rise again | free again | keep again | follow again | enter again =>
            exact ⟨_, Option.some.inj (present.symm.trans again)⟩
      obtain ⟨entered, rfl⟩ := entered
      refine .enter (directories _ _ found) proper (directories _ _ present) noLink
        (inductionHypothesis (fun location member => ?_) arrived)
      exact crossed location (List.mem_cons_of_mem _ member)

/-- What the last name of a path leads to from the directory it is looked up in. -/
def lastStep (system : FileSystem) (directory : Location) (name : Bytes) :
    Except Refusal Place :=
  system.walk .kept 0 directory [name]

/-- A last name is not followed, so it takes no link. -/
theorem walk_singleton (system : FileSystem) (links : Nat) (here : Location) (name : Bytes) :
    system.walk .kept links here [name] = system.lastStep here name := by
  rw [lastStep, walk_eq_descend, walk_eq_descend]
  simp only [descend, List.isEmpty_nil, beq_self_eq_true, Bool.and_self, if_true]

theorem Reaches.walk_concat
    (reached : Reaches system .followed links here front (.taken directory (.directory mode)))
    (name : Bytes) :
    system.walk .kept links here (front ++ [name]) = system.lastStep directory name := by
  generalize arrived : Place.taken directory (.directory mode) = place at reached
  induction reached with
  | arrive found =>
      cases arrived
      exact walk_singleton ..
  | free found proper absent => contradiction
  | keep found proper linked kept => contradiction
  | stay found same later inductionHypothesis =>
      rw [← inductionHypothesis arrived, walk_eq_descend, List.cons_append, descend, found]
      rcases same with empty | ⟨searchable, rfl⟩
      · simp only [empty, if_true]
      · simp only [searchable, Bool.not_true, Bool.false_eq_true, if_false, beq_self_eq_true,
          if_true]
        rfl
  | rise found searchable later inductionHypothesis =>
      rw [← inductionHypothesis arrived, walk_eq_descend, List.cons_append, descend, found]
      simp only [searchable, Bool.not_true, Bool.false_eq_true, if_false, beq_self_eq_true, if_true]
      rfl
  | follow found proper linked followed later inductionHypothesis =>
      rw [← inductionHypothesis arrived, walk_eq_descend, List.cons_append,
        descend_of_proper found (proper.before (by simp) _), visit, linked]
      simp [jump]
  | enter found proper present noLink later inductionHypothesis =>
      rw [← inductionHypothesis arrived, walk_eq_descend, List.cons_append,
        descend_of_proper found (proper.before (by simp) _), visit, present]
      split
      · contradiction
      · rename_i target same
        cases same
        exact absurd rfl (noLink target)
      · rfl

theorem Reaches.directory_of_cons (reached : Reaches system last links here (name :: rest) place) :
    ∃ mode, system.lookup? here = some (.directory mode) := by
  cases reached with
  | stay found | rise found | free found | keep found | follow found | enter found =>
      exact ⟨_, found⟩

theorem Reaches.parted_at_start (reached : Reaches system .kept links here [name] place) :
    ∃ directory mode,
      Reaches system .followed links here [] (.taken directory (.directory mode)) ∧
      system.lastStep directory name = .ok place := by
  obtain ⟨mode, found⟩ := reached.directory_of_cons
  exact ⟨here, mode, .arrive found, (walk_singleton ..).symm.trans reached.walk_eq⟩

/-- A walk that succeeds goes into the directory of its last name first. -/
theorem Reaches.parted (reached : Reaches system .kept links here (front ++ [name]) place) :
    ∃ directory mode,
      Reaches system .followed links here front (.taken directory (.directory mode)) ∧
      system.lastStep directory name = .ok place := by
  generalize whole : front ++ [name] = path at reached
  induction reached generalizing front with
  | arrive found => simp at whole
  | stay found same later inductionHypothesis =>
      cases front with
      | nil =>
          cases whole
          exact (Reaches.stay found same later).parted_at_start
      | cons head tail =>
          cases whole
          obtain ⟨directory, mode, before, after⟩ := inductionHypothesis rfl
          exact ⟨directory, mode, .stay found same before, after⟩
  | rise found searchable later inductionHypothesis =>
      cases front with
      | nil =>
          cases whole
          exact (Reaches.rise found searchable later).parted_at_start
      | cons head tail =>
          cases whole
          obtain ⟨directory, mode, before, after⟩ := inductionHypothesis rfl
          exact ⟨directory, mode, .rise found searchable before, after⟩
  | @free links here mode first found proper absent =>
      obtain ⟨rfl, rfl⟩ : front = [] ∧ name = first := by
        simpa [List.append_eq_singleton_iff] using whole
      have reached : Reaches system .kept links here [name] (.free (name :: here)) :=
        .free found proper absent
      exact reached.parted_at_start
  | @keep links here mode first target found proper linked kept =>
      obtain ⟨rfl, rfl⟩ : front = [] ∧ name = first := by
        simpa [List.append_eq_singleton_iff] using whole
      have reached : Reaches system .kept links here [name] (.taken (name :: here) (.link target)) :=
        .keep found proper linked kept
      exact reached.parted_at_start
  | @follow links here mode first target rest place found proper linked followed later
      inductionHypothesis =>
      cases front with
      | nil =>
          -- A link that comes last is kept.
          cases whole
          simp at followed
      | cons head tail =>
          cases whole
          have onward : names target ++ tail ++ [name] = names target ++ (tail ++ [name]) :=
            List.append_assoc ..
          obtain ⟨directory, mode, before, after⟩ := inductionHypothesis onward
          exact ⟨directory, mode,
            .follow found (proper.before (by simp) _) linked (by simp) before, after⟩
  | enter found proper present noLink later inductionHypothesis =>
      cases front with
      | nil =>
          cases whole
          exact (Reaches.enter found proper present noLink later).parted_at_start
      | cons head tail =>
          cases whole
          obtain ⟨directory, mode, before, after⟩ := inductionHypothesis rfl
          exact ⟨directory, mode,
            .enter found (proper.before (by simp) _) present noLink before, after⟩

def placeAt (system : FileSystem) (location : Location) : Place :=
  match system.lookup? location with
  | none => .free location
  | some entry => .taken location entry

@[simp]
theorem placeAt_location (system : FileSystem) (location : Location) :
    (system.placeAt location).location = location := by
  unfold placeAt
  split <;> rfl

theorem lastStep_of_proper (found : system.lookup? directory = some (.directory mode))
    (proper : Proper .kept mode name []) :
    system.lastStep directory name = .ok (system.placeAt (name :: directory)) := by
  rw [lastStep, walk_eq_descend, descend_of_proper found proper, visit, placeAt]
  cases present : system.lookup? (name :: directory) with
  | none => rfl
  | some entry => cases entry <;> simp [descend, present]

/-- A last name stays in its directory, goes up one, or names an entry of it. -/
theorem lastStep_cases (found : system.lookup? directory = some (.directory mode))
    (stepped : system.lastStep directory name = .ok place) :
    place = .taken directory (.directory mode) ∨
      (∃ entry, place = .taken directory.tail entry ∧
        system.lookup? directory.tail = some entry) ∨
      (Proper .kept mode name [] ∧ place = system.placeAt (name :: directory)) := by
  have walked := stepped
  rw [lastStep, walk_eq_descend] at stepped
  rcases descend_cons_cases found stepped with ⟨-, stayed⟩ | ⟨-, -, risen⟩ | proper
  · rw [descend, found] at stayed
    exact .inl (Except.ok.inj stayed).symm
  · rw [descend] at risen
    split at risen
    · rename_i entry present
      exact .inr (.inl ⟨entry, (Except.ok.inj risen).symm, present⟩)
    · contradiction
  · rw [lastStep_of_proper found proper] at walked
    exact .inr (.inr ⟨proper, (Except.ok.inj walked).symm⟩)

theorem lastStep_congr (here : other.lookup? directory = system.lookup? directory)
    (above : other.lookup? directory.tail = system.lookup? directory.tail)
    (named : other.lookup? (name :: directory) = system.lookup? (name :: directory)) :
    other.lastStep directory name = system.lastStep directory name := by
  simp only [lastStep, walk, descend, here, above, named]

end FileSystem

end ImportSplice
