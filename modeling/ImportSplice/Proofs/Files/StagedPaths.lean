import ImportSplice.Files.Output
import ImportSplice.Proofs.Files.Trail
import ImportSplice.Proofs.Text.Decimals

/-!
The path that an output is staged at.  It differs from the path of the output in the last
name only, so both lead into the same directory, and the two last names are never the same.
-/

namespace ImportSplice

namespace Path

theorem split_eq (path : Bytes) :
    split path = ((path.reverse.dropWhile (· != Bytes.slash)).reverse,
      (path.reverse.takeWhile (· != Bytes.slash)).reverse) := by
  have parts : path = (path.reverse.dropWhile (· != Bytes.slash)).reverse ++
      (path.reverse.takeWhile (· != Bytes.slash)).reverse := by
    rw [← List.reverse_append, List.takeWhile_append_dropWhile, List.reverse_reverse]
  rw [split, Prod.mk.injEq]
  refine ⟨?_, rfl⟩
  generalize (path.reverse.dropWhile (· != Bytes.slash)).reverse = directory at parts ⊢
  generalize (path.reverse.takeWhile (· != Bytes.slash)).reverse = base at parts ⊢
  subst parts
  simp

theorem split_append (path : Bytes) : (split path).1 ++ (split path).2 = path := by
  rw [split_eq, ← List.reverse_append, List.takeWhile_append_dropWhile, List.reverse_reverse]

theorem slash_not_mem_base (path : Bytes) : Bytes.slash ∉ (split path).2 := by
  rw [split_eq, List.mem_reverse]
  intro member
  have kept := List.all_eq_true.mp (List.all_takeWhile (p := (· != Bytes.slash))) _ member
  simp at kept

theorem directory_cases (path : Bytes) :
    (split path).1 = [] ∨ ∃ above, (split path).1 = above ++ [Bytes.slash] := by
  rw [split_eq]
  cases before : path.reverse.dropWhile (· != Bytes.slash) with
  | nil => exact .inl rfl
  | cons byte rest =>
      have ends := List.head?_dropWhile_not (· != Bytes.slash) path.reverse
      rw [before] at ends
      have slash : byte = Bytes.slash := by simpa using ends
      exact .inr ⟨rest.reverse, by simp [slash]⟩

end Path

namespace FileSystem

theorem names_of_unbroken {name : Bytes} (unbroken : Bytes.slash ∉ name) : names name = [name] := by
  apply List.splitOnP_eq_singleton
  intro byte member
  rw [beq_eq_false_iff_ne]
  rintro rfl
  exact unbroken member

theorem names_append_slash {above name : Bytes} (unbroken : Bytes.slash ∉ name) :
    names (above ++ [Bytes.slash] ++ name) = names above ++ [name] := by
  rw [List.append_assoc, List.singleton_append, ← names_of_unbroken unbroken]
  exact List.splitOnP_append_cons above name (by simp)

theorem names_eq_leading (path : Bytes) : names path = leading path ++ [(Path.split path).2] := by
  have unbroken := Path.slash_not_mem_base path
  have whole := Path.split_append path
  have parted : ∃ before, names path = before ++ [(Path.split path).2] := by
    rcases Path.directory_cases path with none | ⟨above, some⟩
    · rw [none, List.nil_append] at whole
      exact ⟨[], by rw [List.nil_append, ← names_of_unbroken unbroken, whole]⟩
    · rw [some] at whole
      exact ⟨names above, by rw [← names_append_slash unbroken, whole]⟩
  obtain ⟨before, parted⟩ := parted
  rw [leading, parted, List.dropLast_concat]

/-- A text that can be a path: it has no zero byte and is not too long. -/
structure Valid (path : Bytes) : Prop where
  noZero : path.contains 0 = false
  short : ¬ path.length > maxPathLength

variable {system : FileSystem} {last : LastName} {path : Bytes} {place : Place}
  {directory : Location} {mode : Nat}

theorem resolve_eq_walk (valid : Valid path) (nonempty : path ≠ []) :
    system.resolve last path =
      system.walk last maxLinks (origin system.working path) (names path) := by
  have filled : path.isEmpty = false := by simpa using nonempty
  simp only [resolve, valid.noZero, filled, valid.short, Bool.false_eq_true, if_false]

theorem resolve_ok (resolved : system.resolve last path = .ok place) :
    Valid path ∧ path ≠ [] ∧
      Reaches system last maxLinks (origin system.working path) (names path) place := by
  have reached := reaches_of_resolve resolved
  unfold resolve at resolved
  split at resolved
  · contradiction
  · rename_i noZero
    split at resolved
    · contradiction
    · rename_i filled
      split at resolved
      · contradiction
      · rename_i short
        exact ⟨⟨Bool.eq_false_iff.mpr noZero, short⟩, by simpa using filled, reached⟩

theorem LeadsInto.found (leads : LeadsInto system path directory mode) :
    system.lookup? directory = some (.directory mode) :=
  Reaches.found leads

theorem LeadsInto.resolve_eq (leads : LeadsInto system path directory mode) (valid : Valid path)
    (nonempty : path ≠ []) :
    system.resolve .kept path = system.lastStep directory (Path.split path).2 := by
  rw [resolve_eq_walk valid nonempty, names_eq_leading]
  exact leads.walk_concat _

end FileSystem

namespace Output

open FileSystem

def stagedName (base : Bytes) (number : Nat) : Bytes :=
  ascii "." ++ base ++ ascii ".tmp-" ++ Bytes.decimal number

/-- A name that a staged file may have. -/
def IsStagedName (name : Bytes) : Prop := ∃ base number, name = stagedName base number

theorem IsStagedName.length_gt {name : Bytes} (staged : IsStagedName name) : 5 < name.length := by
  obtain ⟨base, number, rfl⟩ := staged
  have dotted : (ascii ".").length = 1 := rfl
  have marked : (ascii ".tmp-").length = 5 := rfl
  simp only [stagedName, List.length_append]
  omega

theorem stagedName_ne (base : Bytes) (number : Nat) : base ≠ stagedName base number := by
  intro same
  have lengths := congrArg List.length same
  simp only [stagedName, List.length_append] at lengths
  have dotted : (ascii ".").length = 1 := rfl
  omega

theorem slash_not_mem_stagedName {base : Bytes} (unbroken : Bytes.slash ∉ base) (number : Nat) :
    Bytes.slash ∉ stagedName base number := by
  have noDigit : Bytes.slash ∉ Bytes.decimal number := by
    intro member
    have digit := Bytes.decimal_digits number _ member
    contradiction
  have dot : Bytes.slash ∉ ascii "." := by decide
  have mark : Bytes.slash ∉ ascii ".tmp-" := by decide
  simp only [stagedName, List.mem_append, not_or]
  exact ⟨⟨⟨dot, unbroken⟩, mark⟩, noDigit⟩

/-- Where an output for a path is staged once its directory is known. -/
def stagedAt (path : Bytes) (directory : Location) (number : Nat) : Location :=
  stagedName (Path.split path).2 number :: directory

theorem directory_ne_stagedAt (path : Bytes) (directory : Location) (number : Nat) :
    directory ≠ stagedAt path directory number := by
  simp [stagedAt]

theorem tail_ne_stagedAt (path : Bytes) (directory : Location) (number : Nat) :
    directory.tail ≠ stagedAt path directory number := by
  intro same
  have lengths := congrArg List.length same
  simp only [stagedAt, List.length_cons, List.length_tail] at lengths
  omega

theorem base_ne_stagedAt (path : Bytes) (directory : Location) (number : Nat) :
    (Path.split path).2 :: directory ≠ stagedAt path directory number := by
  rw [stagedAt, ne_eq, List.cons.injEq, not_and]
  intro same
  exact absurd same (stagedName_ne _ _)

theorem stagedPath_eq (path : Bytes) (number : Nat) :
    stagedPath path number =
      (if (Path.split path).1.isEmpty then ascii "./" else (Path.split path).1) ++
        stagedName (Path.split path).2 number := by
  simp only [stagedPath, stagedStart, stagedName, List.append_assoc]

theorem names_stagedPath (path : Bytes) (number : Nat) :
    leading path = [] ∧ names (stagedPath path number) =
        [ascii ".", stagedName (Path.split path).2 number] ∨
      names (stagedPath path number) =
        leading path ++ [stagedName (Path.split path).2 number] := by
  have unbroken := Path.slash_not_mem_base path
  have staged := slash_not_mem_stagedName unbroken number
  have whole := Path.split_append path
  rw [stagedPath_eq]
  rcases Path.directory_cases path with none | ⟨above, some⟩
  · rw [none, List.nil_append] at whole
    refine .inl ⟨?_, ?_⟩
    · rw [leading, ← whole, names_of_unbroken unbroken]
      rfl
    · have dot : names (ascii ".") = [ascii "."] := names_of_unbroken (by decide)
      have here : ascii "./" = ascii "." ++ [Bytes.slash] := rfl
      rw [none, ← List.singleton_append, ← dot, ← names_append_slash staged, ← here]
      rfl
  · refine .inr ?_
    have before : leading path = names above := by
      rw [leading, ← whole, some, names_append_slash unbroken, List.dropLast_concat]
    rw [before, some, ← names_append_slash staged]
    simp

theorem origin_stagedPath (working : Location) (path : Bytes) (number : Nat) :
    origin working (stagedPath path number) = origin working path := by
  have unbroken := Path.slash_not_mem_base path
  have whole := Path.split_append path
  rw [stagedPath_eq]
  rcases Path.directory_cases path with none | ⟨above, some⟩
  · rw [none, List.nil_append] at whole
    have relative : path.head? ≠ some Bytes.slash := by
      intro absolute
      rw [← whole] at absolute
      exact unbroken (List.mem_of_mem_head? absolute)
    simp only [none, origin, List.isEmpty_nil, if_true, beq_iff_eq, if_neg relative]
    rfl
  · rw [some] at whole
    have sameHead : ∀ more : Bytes, (above ++ [Bytes.slash] ++ more).head? =
        (above ++ [Bytes.slash]).head? := by
      intro more
      cases above <;> rfl
    have headed : path.head? = (above ++ [Bytes.slash]).head? := by rw [← whole, sameHead]
    rw [some, if_neg (by simp), origin, origin, sameHead, headed]

variable {system : FileSystem} {path : Bytes} {number : Nat} {place : Place}
  {directory : Location} {mode : Nat}

theorem valid_of_stagedPath (valid : Valid (stagedPath path number)) : Valid path := by
  have whole := Path.split_append path
  have parts := stagedPath_eq path number
  have contained : ∀ byte ∈ path, byte ∈ stagedPath path number := by
    intro byte member
    rw [← whole, List.mem_append] at member
    rw [parts, List.mem_append]
    rcases member with before | base
    · refine .inl ?_
      rw [if_neg (by simpa using List.ne_nil_of_mem before)]
      exact before
    · exact .inr (by simp [stagedName, base])
  constructor
  · rw [Bool.eq_false_iff, ne_eq, List.contains_iff_mem]
    intro zero
    have absent := valid.noZero
    rw [Bool.eq_false_iff, ne_eq, List.contains_iff_mem] at absent
    exact absent (contained 0 zero)
  · have short := valid.short
    have longer : path.length ≤ (stagedPath path number).length := by
      have total := congrArg List.length whole
      rw [List.length_append] at total
      rw [parts, stagedName]
      split
      · rename_i none
        have empty : (Path.split path).1.length = 0 := by simpa using none
        simp only [List.length_append]
        omega
      · simp only [List.length_append]
        omega
    omega

/-- A staged path leads into the directory of the path it is staged for. -/
theorem leadsInto_of_stagedPath
    (resolved : system.resolve .kept (stagedPath path number) = .ok place) :
    ∃ directory mode, LeadsInto system path directory mode ∧
      system.lastStep directory (stagedName (Path.split path).2 number) = .ok place := by
  obtain ⟨-, -, reached⟩ := resolve_ok resolved
  rw [origin_stagedPath] at reached
  rcases names_stagedPath path number with ⟨none, named⟩ | named
  · rw [named, ← List.singleton_append] at reached
    obtain ⟨directory, mode, before, stepped⟩ := reached.parted
    refine ⟨directory, mode, ?_, stepped⟩
    rw [LeadsInto, none]
    cases before with
    | stay found same later => exact later
    | follow found proper | enter found proper =>
        have current := proper.notCurrent
        simp at current
  · rw [named] at reached
    exact reached.parted

theorem resolve_stagedPath (leads : LeadsInto system path directory mode)
    (searchable : Mode.allowsSearch mode = true) (valid : Valid (stagedPath path number)) :
    system.resolve .kept (stagedPath path number) =
      system.lastStep directory (stagedName (Path.split path).2 number) := by
  have nonempty : stagedPath path number ≠ [] := by simp [stagedPath, stagedStart, ascii]
  rw [resolve_eq_walk valid nonempty, origin_stagedPath]
  rcases names_stagedPath path number with ⟨none, named⟩ | named
  · rw [LeadsInto, none] at leads
    cases leads with
    | arrive found =>
        have current : Reaches system .followed maxLinks (origin system.working path) [ascii "."]
            (.taken (origin system.working path) (.directory mode)) :=
          .stay found (.inr ⟨searchable, rfl⟩) (.arrive found)
        rw [named]
        exact current.walk_concat _
  · rw [named]
    exact leads.walk_concat _

end Output

end ImportSplice
