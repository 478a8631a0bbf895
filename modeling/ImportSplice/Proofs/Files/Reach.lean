import ImportSplice.Files.Walk

/-!
Successful walks as a relation: one rule for each thing that a walk can do with a
name.  The walk finds exactly what the rules derive, so what holds of every walk is
proved by induction on them, links included.
-/

namespace ImportSplice.FileSystem

/-- A name that stands for an entry of the directory it is looked up in. -/
structure Proper (last : LastName) (mode : Nat) (name : Bytes) (rest : List Bytes) : Prop where
  named : name.isEmpty = false
  searchable : Mode.allowsSearch mode = true
  notCurrent : (name == ascii ".") = false
  notParent : (name == ascii "..") = false
  noSlash : (last == .created && !rest.isEmpty && rest.all (·.isEmpty)) = false
  short : ¬ name.length > maxNameLength

/-- What names lead to from a directory over at most a number of links. -/
inductive Reaches (system : FileSystem) (last : LastName) :
    Nat → Location → List Bytes → Place → Prop where
  | arrive {links : Nat} {here : Location} {entry : Entry}
      (found : system.lookup? here = some entry) :
      Reaches system last links here [] (.taken here entry)
  | stay {links : Nat} {here : Location} {mode : Nat} {name : Bytes} {rest : List Bytes}
      {place : Place} (found : system.lookup? here = some (.directory mode))
      (same : name.isEmpty = true ∨ Mode.allowsSearch mode = true ∧ name = ascii ".")
      (later : Reaches system last links here rest place) :
      Reaches system last links here (name :: rest) place
  | rise {links : Nat} {here : Location} {mode : Nat} {rest : List Bytes} {place : Place}
      (found : system.lookup? here = some (.directory mode))
      (searchable : Mode.allowsSearch mode = true)
      (later : Reaches system last links here.tail rest place) :
      Reaches system last links here (ascii ".." :: rest) place
  | free {links : Nat} {here : Location} {mode : Nat} {name : Bytes}
      (found : system.lookup? here = some (.directory mode)) (proper : Proper last mode name [])
      (absent : system.lookup? (name :: here) = none) :
      Reaches system last links here [name] (.free (name :: here))
  | keep {links : Nat} {here : Location} {mode : Nat} {name target : Bytes}
      (found : system.lookup? here = some (.directory mode)) (proper : Proper last mode name [])
      (linked : system.lookup? (name :: here) = some (.link target)) (kept : last = .kept) :
      Reaches system last links here [name] (.taken (name :: here) (.link target))
  | follow {links : Nat} {here : Location} {mode : Nat} {name target : Bytes}
      {rest : List Bytes} {place : Place}
      (found : system.lookup? here = some (.directory mode)) (proper : Proper last mode name rest)
      (linked : system.lookup? (name :: here) = some (.link target))
      (followed : (rest.isEmpty && last == .kept) = false)
      (later : Reaches system last links (origin here target) (names target ++ rest) place) :
      Reaches system last (links + 1) here (name :: rest) place
  | enter {links : Nat} {here : Location} {mode : Nat} {name : Bytes} {rest : List Bytes}
      {entry : Entry} {place : Place}
      (found : system.lookup? here = some (.directory mode)) (proper : Proper last mode name rest)
      (present : system.lookup? (name :: here) = some entry)
      (noLink : ∀ target, entry ≠ .link target)
      (later : Reaches system last links (name :: here) rest place) :
      Reaches system last links here (name :: rest) place

def jump (system : FileSystem) (last : LastName) :
    Nat → Location → List Bytes → Except Refusal Place
  | 0, _, _ => .error .tooManyLinks
  | links + 1, here, path => system.walk last links here path

theorem walk_eq_descend (system : FileSystem) (last : LastName) (links : Nat) :
    system.walk last links = system.descend last (system.jump last links) := by
  cases links <;> rfl

variable {system : FileSystem} {last : LastName} {links : Nat} {here : Location}
  {path : List Bytes} {place : Place}

/-- What a walk does with a name that it looks up in a directory. -/
def visit (system : FileSystem) (last : LastName)
    (jump : Location → List Bytes → Except Refusal Place) (here : Location) (name : Bytes)
    (rest : List Bytes) : Except Refusal Place :=
  match system.lookup? (name :: here) with
  | none => if rest.isEmpty then .ok (.free (name :: here)) else .error .noEntry
  | some (.link target) =>
      if rest.isEmpty && last == .kept then .ok (.taken (name :: here) (.link target))
      else jump (origin here target) (names target ++ rest)
  | some _ => system.descend last jump (name :: here) rest

theorem descend_of_proper {jump : Location → List Bytes → Except Refusal Place} {mode : Nat}
    {name : Bytes} {rest : List Bytes} (found : system.lookup? here = some (.directory mode))
    (proper : Proper last mode name rest) :
    system.descend last jump here (name :: rest) =
      system.visit last jump here name rest := by
  rw [descend, found]
  simp only [proper.named, proper.searchable, proper.notCurrent, proper.notParent, proper.noSlash,
    proper.short, Bool.not_true, Bool.false_eq_true, if_false]
  rfl

theorem descend_cons_cases {jump : Location → List Bytes → Except Refusal Place} {mode : Nat}
    {name : Bytes} {rest : List Bytes} (found : system.lookup? here = some (.directory mode))
    (reached : system.descend last jump here (name :: rest) = .ok place) :
    (name.isEmpty = true ∨ Mode.allowsSearch mode = true ∧ name = ascii ".") ∧
        system.descend last jump here rest = .ok place ∨
      Mode.allowsSearch mode = true ∧ name = ascii ".." ∧
        system.descend last jump here.tail rest = .ok place ∨
      Proper last mode name rest := by
  rw [descend, found] at reached
  by_cases empty : name.isEmpty = true
  · exact .inl ⟨.inl empty, by simpa only [empty, if_true] using reached⟩
  by_cases closed : (!Mode.allowsSearch mode) = true
  · simp [empty, closed] at reached
  have searchable : Mode.allowsSearch mode = true := by simpa using closed
  by_cases current : (name == ascii ".") = true
  · refine .inl ⟨.inr ⟨searchable, beq_iff_eq.mp current⟩, ?_⟩
    simpa only [empty, closed, current, Bool.false_eq_true, if_false, if_true] using reached
  by_cases parent : (name == ascii "..") = true
  · refine .inr (.inl ⟨searchable, beq_iff_eq.mp parent, ?_⟩)
    simpa only [empty, closed, current, parent, Bool.false_eq_true, if_false, if_true] using reached
  by_cases slash : (last == .created && !rest.isEmpty && rest.all (·.isEmpty)) = true
  · simp only [empty, closed, current, parent, slash, Bool.false_eq_true, if_false, if_true,
      reduceCtorEq] at reached
  by_cases long : name.length > maxNameLength
  · simp only [empty, closed, current, parent, slash, long, Bool.false_eq_true, if_false, if_true,
      reduceCtorEq] at reached
  exact .inr (.inr ⟨Bool.eq_false_iff.mpr empty, searchable, Bool.eq_false_iff.mpr current,
    Bool.eq_false_iff.mpr parent, Bool.eq_false_iff.mpr slash, long⟩)

theorem Reaches.of_visit {mode : Nat} {name : Bytes} {rest : List Bytes}
    (found : system.lookup? here = some (.directory mode)) (proper : Proper last mode name rest)
    (jumps : ∀ here path, system.jump last links here path = .ok place →
      ∃ fewer, links = fewer + 1 ∧ Reaches system last fewer here path place)
    (enters : system.descend last (system.jump last links) (name :: here) rest = .ok place →
      Reaches system last links (name :: here) rest place)
    (reached : system.visit last (system.jump last links) here name rest = .ok place) :
    Reaches system last links here (name :: rest) place := by
  unfold visit at reached
  split at reached
  · rename_i absent
    split at reached
    · rename_i final
      cases reached
      rw [List.isEmpty_iff.mp final] at proper ⊢
      exact .free found proper absent
    · contradiction
  · rename_i target linked
    split at reached
    · rename_i final
      cases reached
      rw [Bool.and_eq_true, List.isEmpty_iff, beq_iff_eq] at final
      rw [final.1] at proper ⊢
      exact .keep found proper linked final.2
    · rename_i followed
      obtain ⟨fewer, rfl, later⟩ := jumps _ _ reached
      exact .follow found proper linked (by simpa using followed) later
  · rename_i entry noLink present
    exact .enter found proper present noLink (enters reached)

theorem Reaches.of_descend
    (jumps : ∀ here path, system.jump last links here path = .ok place →
      ∃ fewer, links = fewer + 1 ∧ Reaches system last fewer here path place)
    (reached : system.descend last (system.jump last links) here path = .ok place) :
    Reaches system last links here path place := by
  induction path generalizing here with
  | nil =>
      rw [descend] at reached
      split at reached
      · rename_i entry found
        cases reached
        exact .arrive found
      · contradiction
  | cons name rest inductionHypothesis =>
      cases found : system.lookup? here with
      | none => simp [descend, found] at reached
      | some entry =>
          cases entry with
          | directory mode =>
              rcases descend_cons_cases found reached with
                ⟨same, later⟩ | ⟨searchable, rfl, later⟩ | proper
              · exact .stay found same (inductionHypothesis later)
              · exact .rise found searchable (inductionHypothesis later)
              · rw [descend_of_proper found proper] at reached
                exact .of_visit found proper jumps inductionHypothesis reached
          | file serial content mode => simp [descend, found] at reached
          | link target => simp [descend, found] at reached
          | device kind => simp [descend, found] at reached

theorem Reaches.of_walk (reached : system.walk last links here path = .ok place) :
    Reaches system last links here path place := by
  induction links generalizing here path with
  | zero =>
      rw [walk_eq_descend] at reached
      exact .of_descend (fun _ _ jumped => by cases jumped) reached
  | succ links inductionHypothesis =>
      rw [walk_eq_descend] at reached
      exact .of_descend (fun _ _ jumped => ⟨links, rfl, inductionHypothesis jumped⟩) reached

theorem Reaches.walk_eq (reached : Reaches system last links here path place) :
    system.walk last links here path = .ok place := by
  induction reached with
  | arrive found =>
      rw [walk_eq_descend, descend, found]
  | stay found same later inductionHypothesis =>
      rw [walk_eq_descend] at inductionHypothesis ⊢
      rcases same with empty | ⟨searchable, rfl⟩
      · rw [descend, found]
        simp only [empty, if_true, inductionHypothesis]
      · rw [descend, found]
        simp only [searchable, Bool.not_true, Bool.false_eq_true, if_false, beq_self_eq_true,
          if_true, inductionHypothesis]
        rfl
  | rise found searchable later inductionHypothesis =>
      rw [walk_eq_descend] at inductionHypothesis ⊢
      rw [descend, found]
      simp only [searchable, Bool.not_true, Bool.false_eq_true, if_false, beq_self_eq_true,
        if_true, inductionHypothesis]
      rfl
  | free found proper absent =>
      rw [walk_eq_descend, descend_of_proper found proper, visit, absent]
      rfl
  | keep found proper linked kept =>
      rw [walk_eq_descend, descend_of_proper found proper, visit, linked, kept]
      rfl
  | follow found proper linked followed later inductionHypothesis =>
      rw [walk_eq_descend, descend_of_proper found proper, visit, linked]
      simp only [followed, Bool.false_eq_true, if_false]
      exact inductionHypothesis
  | enter found proper present noLink later inductionHypothesis =>
      rw [walk_eq_descend] at inductionHypothesis ⊢
      rw [descend_of_proper found proper, visit, present, ← inductionHypothesis]
      split
      · contradiction
      · rename_i target same
        cases same
        exact absurd rfl (noLink target)
      · rfl

end ImportSplice.FileSystem
