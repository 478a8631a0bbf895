import ImportSplice.Proofs.Files.StagedPaths

/-!
The number that an output is staged under.  Numbers are drawn until one gives a name that is
not taken.  What keeps a file from being staged in a directory that can be searched is
therefore the directory, if it takes no new names, a name that the number drawn and the marks
make too long, or that the names of all numbers drawn are taken.
-/

namespace ImportSplice

namespace FileSystem

variable {system : FileSystem} {directory : Location} {mode : Nat}

theorem lastStep_of_long {name : Bytes} (found : system.lookup? directory = some (.directory mode))
    (searchable : Mode.allowsSearch mode = true) (long : name.length > maxNameLength) :
    system.lastStep directory name = .error .nameTooLong := by
  have unlike : ∀ other : Bytes, other.length ≤ 2 → (name == other) = false := by
    intro other bounded
    rw [beq_eq_false_iff_ne]
    rintro rfl
    simp only [maxNameLength] at long
    omega
  have named : name.isEmpty = false := by
    cases name with
    | nil => simp at long
    | cons byte rest => rfl
  rw [lastStep, walk_eq_descend, descend, found]
  simp [named, searchable, unlike (ascii ".") (by decide), unlike (ascii "..") (by decide), long]

end FileSystem

namespace Output

open FileSystem

/-- The name or the path of a staged file has more bytes than one may have. -/
def TooLong (path : Bytes) (number : Nat) : Prop :=
  (stagedName (Path.split path).2 number).length > maxNameLength ∨
    (stagedPath path number).length > maxPathLength

/-- The name of an attempt is that of an entry. -/
def Taken (system : FileSystem) (path : Bytes) (draws : Nat → UInt32) (attempt : Nat) : Prop :=
  ∃ location entry,
    system.find .kept (stagedPath path (draws attempt).toNat) = .ok (location, entry)

/-- The attempt that ends the search for a name: the first whose name is not taken. -/
structure LastDraw (system : FileSystem) (path : Bytes) (draws : Nat → UInt32) (attempt : Nat) :
    Prop where
  bounded : attempt < maxDraws
  earlier : ∀ other < attempt, Taken system path draws other
  free : ¬ Taken system path draws attempt

variable {system : FileSystem} {path : Bytes} {directory : Location} {mode directoryMode : Nat}
  {draws : Nat → UInt32}

theorem proper_stagedName {base : Bytes} {number : Nat}
    (searchable : Mode.allowsSearch mode = true)
    (short : ¬ (stagedName base number).length > maxNameLength) :
    Proper .kept mode (stagedName base number) [] := by
  have long : 5 < (stagedName base number).length := IsStagedName.length_gt ⟨base, number, rfl⟩
  have unlike : ∀ name : Bytes, name.length ≤ 5 → stagedName base number ≠ name := by
    rintro name bounded rfl
    omega
  exact
    { named := by simpa using unlike [] (by simp)
      searchable := searchable
      notCurrent := beq_eq_false_iff_ne.mpr (unlike _ (by decide))
      notParent := beq_eq_false_iff_ne.mpr (unlike _ (by decide))
      noSlash := rfl
      short := short }

theorem noZero_stagedPath (noZero : path.contains 0 = false) (number : Nat) :
    (stagedPath path number).contains 0 = false := by
  have digits : 0 ∉ Bytes.decimal number := by
    intro member
    have digit := Bytes.decimal_digits number _ member
    contradiction
  have marks : 0 ∉ ascii "./" ∧ 0 ∉ ascii "." ∧ 0 ∉ ascii ".tmp-" := by decide
  have whole := Path.split_append path
  rw [Bool.eq_false_iff, ne_eq, List.contains_iff_mem] at noZero ⊢
  rw [← whole, List.mem_append, not_or] at noZero
  simp only [stagedPath_eq, stagedName, List.mem_append, not_or]
  refine ⟨?_, ⟨⟨marks.2.1, noZero.2⟩, marks.2.2⟩, digits⟩
  split
  · exact marks.1
  · exact noZero.1

/-- Where a staged path leads, as long as it is not too long. -/
theorem resolve_stagedPath_cases (leads : LeadsInto system path directory mode)
    (searchable : Mode.allowsSearch mode = true) (noZero : path.contains 0 = false)
    (number : Nat) :
    TooLong path number ∧
        system.resolve .kept (stagedPath path number) = .error .nameTooLong ∨
      system.resolve .kept (stagedPath path number) =
        .ok (system.placeAt (stagedAt path directory number)) := by
  have clear := noZero_stagedPath noZero number
  by_cases longPath : (stagedPath path number).length > maxPathLength
  · have filled : (stagedPath path number).isEmpty = false := by
      cases staged : stagedPath path number with
      | nil => simp [staged] at longPath
      | cons byte rest => rfl
    refine .inl ⟨.inr longPath, ?_⟩
    simp only [resolve, clear, filled, longPath, Bool.false_eq_true, if_false, if_true]
  · rw [resolve_stagedPath leads searchable ⟨clear, longPath⟩]
    by_cases longName : (stagedName (Path.split path).2 number).length > maxNameLength
    · exact .inl ⟨.inl longName, lastStep_of_long leads.found searchable longName⟩
    · exact .inr (lastStep_of_proper leads.found (proper_stagedName searchable longName))

/-- How the search for a number ends in a directory with a mode. -/
inductive Sought (system : FileSystem) (path : Bytes) (draws : Nat → UInt32)
    (directoryMode : Nat) : Except Fault (FileSystem × OpenFile) → Prop where
  | drawn {created : FileSystem} {file : OpenFile} {attempt : Nat}
      (last : LastDraw system path draws attempt)
      (named : file.path = stagedPath path (draws attempt).toNat)
      (writable : Mode.allowsWriting directoryMode = true) :
      Sought system path draws directoryMode (.ok (created, file))
  | refused {attempt : Nat} (closed : Mode.allowsWriting directoryMode = false) :
      Sought system path draws directoryMode
        (.error (.call openCall (stagedPath path (draws attempt).toNat) .accessDenied))
  | tooLong {attempt : Nat} (last : LastDraw system path draws attempt)
      (long : TooLong path (draws attempt).toNat) :
      Sought system path draws directoryMode
        (.error (.call openCall (stagedPath path (draws attempt).toNat) .nameTooLong))
  | exhausted (taken : ∀ attempt < maxDraws, Taken system path draws attempt) :
      Sought system path draws directoryMode
        (.error (.call temporaryCall (stagedPattern path) .taken))

/-- The induction is on the attempts that are left; the names of those made are taken. -/
theorem createTemporary_sought (leads : LeadsInto system path directory directoryMode)
    (searchable : Mode.allowsSearch directoryMode = true) (noZero : path.contains 0 = false)
    {left attempt : Nat} (counted : attempt + left = maxDraws)
    (earlier : ∀ other < attempt, Taken system path draws other) :
    Sought system path draws directoryMode (createTemporary system path draws left attempt) := by
  induction left generalizing attempt with
  | zero =>
      rw [createTemporary]
      exact .exhausted (counted ▸ earlier)
  | succ left inductionHypothesis =>
      rw [createTemporary]
      rcases resolve_stagedPath_cases leads searchable noZero (draws attempt).toNat with
        ⟨long, resolved⟩ | resolved
      · simp only [createNew, resolved]
        refine .tooLong ⟨by omega, earlier, ?_⟩ long
        rintro ⟨location, entry, found⟩
        rw [find, resolved] at found
        contradiction
      · cases found : system.lookup? (stagedAt path directory (draws attempt).toNat) with
        | some entry =>
            simp only [createNew, resolved, placeAt, found]
            apply inductionHypothesis (by omega)
            intro other before
            rcases Nat.lt_succ_iff_lt_or_eq.mp before with sooner | rfl
            · exact earlier other sooner
            · exact ⟨_, entry, by rw [find, resolved, placeAt, found]⟩
        | none =>
            have allowed : system.allowsChange (stagedAt path directory (draws attempt).toNat) =
                Mode.allowsWriting directoryMode := by
              rw [allowsChange, stagedAt, List.tail_cons, leads.found]
            cases writable : Mode.allowsWriting directoryMode with
            | true =>
                simp only [createNew, resolved, placeAt, found, allowed, writable, if_true]
                refine .drawn ⟨by omega, earlier, ?_⟩ rfl writable
                rintro ⟨location, entry, present⟩
                rw [find, resolved, placeAt, found] at present
                contradiction
            | false =>
                simp only [createNew, resolved, placeAt, found, allowed, writable,
                  Bool.false_eq_true, if_false]
                exact .refused writable

end Output

end ImportSplice
