import ImportSplice.Fault

/-!
A file system as a value.  Names stand in a flat table of locations, so a change
of one entry is seen to leave all others alone.  A file carries a serial number:
an open file is known by its location and its serial number, and once another
file has taken its place, writes to it go nowhere.
-/

namespace ImportSplice

/-- The names that lead from the root to an entry, the innermost first. -/
abbrev Location := List Bytes

/-- Character devices: one takes and drops everything and has nothing to read, the other
is always full and can only be written. -/
inductive Device where
  | null
  | full
  deriving DecidableEq, Repr

inductive Entry where
  | file (serial : Nat) (content : Bytes) (mode : Nat)
  | directory (mode : Nat)
  | link (target : Bytes)
  | device (kind : Device)
  deriving DecidableEq, Repr

structure FileSystem where
  entries : List (Location × Entry)
  /-- Serial numbers below this one have been used. -/
  next : Nat := 0
  /-- Where relative paths start. -/
  working : Location := []
  deriving Repr

namespace Mode

/-- The bits of a mode that say what may be done with an entry. -/
def permissions (mode : Nat) : Nat := mode % 512

/-- The bits of a mode that a new file can have: its permissions, and whether it
runs as its owner or its group. -/
def bits (mode : Nat) : Nat := mode % 4096

def allowsReading (mode : Nat) : Bool := mode / 256 % 2 == 1
def allowsWriting (mode : Nat) : Bool := mode / 128 % 2 == 1
def allowsSearch (mode : Nat) : Bool := mode / 64 % 2 == 1

/-- The mode of a new file when the permissions of group and others to write are
withheld. -/
def masked (mode : Nat) : Nat :=
  let bits := bits mode
  bits - (bits / 16 % 2) * 16 - (bits / 2 % 2) * 2

/-- The mode of a file after its content is changed: it no longer runs as its
owner, nor as its group if the group may run it. -/
def afterChange (mode : Nat) : Nat :=
  mode - (mode / 2048 % 2) * 2048 - (mode / 1024 % 2) * (mode / 8 % 2) * 1024

end Mode

namespace FileSystem

def lookup? (system : FileSystem) (location : Location) : Option Entry :=
  system.entries.lookup location

def erase (system : FileSystem) (location : Location) : FileSystem :=
  { system with entries := system.entries.filter fun pair => pair.1 != location }

/-- Puts an entry at a location, in place of what was there. -/
def insert (system : FileSystem) (location : Location) (entry : Entry) : FileSystem :=
  { system with
    entries := (location, entry) :: system.entries.filter fun pair => pair.1 != location }

private theorem lookup_without (location other : Location) (entries : List (Location × Entry)) :
    (entries.filter fun pair => pair.1 != location).lookup other =
      if other = location then none else entries.lookup other := by
  induction entries with
  | nil => simp
  | cons pair rest inductionHypothesis =>
      obtain ⟨found, entry⟩ := pair
      rw [List.filter_cons]
      by_cases same : other = found
      · subst same
        by_cases removed : other = location
        · rw [if_neg (by simpa using removed), inductionHypothesis, if_pos removed, if_pos removed]
        · rw [if_pos (by simpa using removed), if_neg removed, List.lookup_cons_self,
            List.lookup_cons_self]
      · have apart : (other == found) = false := beq_eq_false_iff_ne.mpr same
        split <;> simp only [List.lookup_cons, apart, inductionHypothesis]

theorem lookup?_erase (system : FileSystem) (location other : Location) :
    (system.erase location).lookup? other =
      if other = location then none else system.lookup? other :=
  lookup_without location other system.entries

theorem lookup?_insert (system : FileSystem) (location other : Location) (entry : Entry) :
    (system.insert location entry).lookup? other =
      if other = location then some entry else system.lookup? other := by
  by_cases same : other = location
  · subst same
    rw [if_pos rfl]
    exact List.lookup_cons_self
  · have apart : (other == location) = false := beq_eq_false_iff_ne.mpr same
    simp only [lookup?, insert, List.lookup_cons, apart, lookup_without, if_neg same]

def used (system : FileSystem) : Nat :=
  system.entries.foldl
    (fun bound pair =>
      match pair.2 with
      | .file serial _ _ => max bound (serial + 1)
      | _ => bound)
    system.next

/-- Puts a new empty file at a location; gives its serial number too. -/
def create (system : FileSystem) (location : Location) (mode : Nat) : FileSystem × Nat :=
  let serial := system.used
  ({ system.insert location (.file serial [] mode) with next := serial + 1 }, serial)

end FileSystem

/-- What a path shows of an entry. -/
inductive Object where
  | file (content : Bytes) (mode : Nat)
  | directory (mode : Nat)
  | link (target : Bytes)
  | device (kind : Device)
  deriving DecidableEq, Repr

def Entry.shown : Entry → Object
  | .file _ content mode => .file content mode
  | .directory mode => .directory mode
  | .link target => .link target
  | .device kind => .device kind

/-- What can be seen at a location: everything but serial numbers. -/
def FileSystem.look (system : FileSystem) (location : Location) : Option Object :=
  (system.lookup? location).map Entry.shown

end ImportSplice
