import ImportSplice.Proofs.Files.Reach

/-!
Walks when a free name is filled.  A walk that succeeds looks at no free name but
the one it may end at, so filling a name changes where a path leads only if it led
to that name, and then it leads to the new entry.
-/

namespace ImportSplice

/-- A place once an entry has been put at a location. -/
def Place.fill (location : Location) (entry : Entry) : Place → Place
  | .free other => if other = location then .taken other entry else .free other
  | .taken other found => .taken other found

namespace FileSystem

/-- A file system with one more entry, at a location that was free. -/
structure Fills (before after : FileSystem) (location : Location) (entry : Entry) : Prop where
  free : before.lookup? location = none
  filled : after.lookup? location = some entry
  others : ∀ other, other ≠ location → after.lookup? other = before.lookup? other
  working : after.working = before.working

variable {before after : FileSystem} {location : Location} {entry : Entry}
  {last : LastName} {links : Nat} {here : Location} {path : List Bytes} {place : Place}

theorem Fills.lookup?_eq_some (fills : Fills before after location entry) {other : Location}
    {found : Entry} (present : before.lookup? other = some found) :
    after.lookup? other = some found := by
  have apart : other ≠ location := by
    rintro rfl
    rw [fills.free] at present
    contradiction
  rw [fills.others other apart, present]

theorem Reaches.fill (fills : Fills before after location entry)
    (noLink : ∀ target, entry ≠ .link target)
    (reached : Reaches before last links here path place) :
    Reaches after last links here path (place.fill location entry) := by
  induction reached with
  | arrive found => exact .arrive (fills.lookup?_eq_some found)
  | stay found same later inductionHypothesis =>
      exact .stay (fills.lookup?_eq_some found) same inductionHypothesis
  | rise found searchable later inductionHypothesis =>
      exact .rise (fills.lookup?_eq_some found) searchable inductionHypothesis
  | @free links here mode name found proper absent =>
      rw [Place.fill]
      by_cases met : name :: here = location
      · rw [if_pos met]
        have present : after.lookup? (name :: here) = some entry := by rw [met, fills.filled]
        exact .enter (fills.lookup?_eq_some found) proper present noLink (.arrive present)
      · rw [if_neg met]
        exact .free (fills.lookup?_eq_some found) proper (by rw [fills.others _ met, absent])
  | keep found proper linked kept =>
      exact .keep (fills.lookup?_eq_some found) proper (fills.lookup?_eq_some linked) kept
  | follow found proper linked followed later inductionHypothesis =>
      exact .follow (fills.lookup?_eq_some found) proper (fills.lookup?_eq_some linked) followed
        inductionHypothesis
  | enter found proper present plain later inductionHypothesis =>
      exact .enter (fills.lookup?_eq_some found) proper (fills.lookup?_eq_some present) plain
        inductionHypothesis

/-- A free place is free, and it is in a directory. -/
theorem Reaches.free_cases (reached : Reaches before last links here path (.free location)) :
    before.lookup? location = none ∧ ∃ name above, location = name :: above := by
  generalize arrived : Place.free location = place at reached
  induction reached with
  | arrive found => contradiction
  | keep found proper linked kept => contradiction
  | free found proper absent =>
      cases arrived
      exact ⟨absent, _, _, rfl⟩
  | stay found same later inductionHypothesis => exact inductionHypothesis arrived
  | rise found searchable later inductionHypothesis => exact inductionHypothesis arrived
  | follow found proper linked followed later inductionHypothesis =>
      exact inductionHypothesis arrived
  | enter found proper present noLink later inductionHypothesis =>
      exact inductionHypothesis arrived

theorem reaches_of_resolve {text : Bytes} (resolved : before.resolve last text = .ok place) :
    Reaches before last maxLinks (origin before.working text) (names text) place := by
  unfold resolve at resolved
  split at resolved
  · contradiction
  · split at resolved
    · contradiction
    · split at resolved
      · contradiction
      · exact .of_walk resolved

theorem resolve_fill (fills : Fills before after location entry)
    (noLink : ∀ target, entry ≠ .link target) {text : Bytes}
    (resolved : before.resolve last text = .ok place) :
    after.resolve last text = .ok (place.fill location entry) := by
  have walked := ((reaches_of_resolve resolved).fill fills noLink).walk_eq
  unfold resolve at resolved ⊢
  rw [fills.working]
  split at resolved
  · contradiction
  · split at resolved
    · contradiction
    · split at resolved
      · contradiction
      · simp only [*, Bool.false_eq_true, if_false]

end FileSystem

end ImportSplice
