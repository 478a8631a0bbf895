import ImportSplice.Proofs.Yaml.Scanning
import ImportSplice.Yaml.Node.Layout

/-!
How the tokens of a configuration are put together.  Each pass moves on over a group of a
mark that is not its own, so that the groups of ordinary marks stay as they are; only the
names before colons and the value on the line of the first name are joined.
-/

namespace ImportSplice.Yaml

theorem Mark.ne_of_isOrdinary {mark other : Mark} (ordinary : mark.isOrdinary = true)
    (special : other.isOrdinary = false) : mark ≠ other := by
  rintro rfl
  rw [special] at ordinary
  contradiction

namespace Group

variable {found groups rest : List Group} {group : Group}

/-! ### What each pass leaves alone -/

theorem blocksOnto_cons (noBlock : group.mark ≠ .block) :
    blocksOnto found (group :: rest) = blocksOnto (group :: found) rest := by
  cases rest <;> simp [blocksOnto, noBlock]

theorem labelsOnto_cons (noAnchor : group.mark ≠ .anchor)
    (noReference : group.mark ≠ .reference) :
    labelsOnto found (group :: rest) = labelsOnto (group :: found) rest := by
  rw [labelsOnto.eq_def]
  simp [noAnchor, noReference]

theorem questionsOnto_cons (noQuestion : group.mark ≠ .question) :
    questionsOnto found (group :: rest) = questionsOnto (group :: found) rest := by
  rw [questionsOnto.eq_def]
  simp [noQuestion]

theorem namesOnto_cons (noColon : group.mark ≠ .colon) :
    namesOnto found (group :: rest) = namesOnto (group :: found) rest := by
  rw [namesOnto.eq_def]
  simp [noColon]

theorem pairsOnto_cons (noName : group.isName = false) :
    pairsOnto found (group :: rest) = pairsOnto (group :: found) rest := by
  cases rest <;> simp [pairsOnto, noName]

theorem directivesOnto_cons {steps : Nat} (noDirective : group.mark ≠ .directive) :
    directivesOnto found (steps + 1) (group :: rest) =
      directivesOnto (group :: found) steps rest := by
  rw [directivesOnto.eq_def]
  simp [noDirective]

theorem documentsOnto_cons {done : List (List Group)} {current : List Group} {opened : Bool}
    (noStart : group.mark ≠ .documentStart) (noEnd : group.mark ≠ .documentEnd) :
    documentsOnto done current opened (group :: rest) =
      documentsOnto done (group :: current) opened rest := by
  rw [documentsOnto.eq_def]
  simp [noStart, noEnd]

/-! ### Groups of ordinary marks -/

/-- A pass that moves each group of a list to those it has found moves all of them. -/
theorem pass_moves {β : Type} (pass : List Group → List Group → β) {moved : Group → Prop}
    (moves : ∀ found group rest, moved group →
      pass found (group :: rest) = pass (group :: found) rest)
    (all : ∀ group ∈ groups, moved group) :
    pass found groups = pass (groups.reverse ++ found) [] := by
  induction groups generalizing found with
  | nil => rfl
  | cons group rest inductionHypothesis =>
      rw [List.forall_mem_cons] at all
      rw [moves _ _ _ all.1, inductionHypothesis all.2]
      simp

theorem blocksOnto_ordinary (ordinary : ∀ group ∈ groups, group.mark.isOrdinary = true) :
    blocksOnto found groups = found.reverse ++ groups := by
  rw [pass_moves blocksOnto
    (fun _ _ _ mark => blocksOnto_cons (Mark.ne_of_isOrdinary mark rfl)) ordinary]
  simp [blocksOnto]

theorem labelsOnto_ordinary (ordinary : ∀ group ∈ groups, group.mark.isOrdinary = true) :
    labelsOnto found groups = .ok (found.reverse ++ groups) := by
  rw [pass_moves labelsOnto (fun _ _ _ mark => labelsOnto_cons (Mark.ne_of_isOrdinary mark rfl)
    (Mark.ne_of_isOrdinary mark rfl)) ordinary]
  simp [labelsOnto]

theorem questionsOnto_ordinary (ordinary : ∀ group ∈ groups, group.mark.isOrdinary = true) :
    questionsOnto found groups = .ok (found.reverse ++ groups) := by
  rw [pass_moves questionsOnto
    (fun _ _ _ mark => questionsOnto_cons (Mark.ne_of_isOrdinary mark rfl)) ordinary]
  simp [questionsOnto]

variable (found) in
theorem namesOnto_without_colon (noColon : ∀ group ∈ groups, group.mark ≠ .colon) :
    namesOnto found groups = .ok (found.reverse ++ groups) := by
  rw [pass_moves namesOnto (fun _ _ _ => namesOnto_cons) noColon]
  simp [namesOnto]

theorem pairsOnto_without_name (noName : ∀ group ∈ groups, group.isName = false) :
    pairsOnto found groups = found.reverse ++ groups := by
  rw [pass_moves pairsOnto (fun _ _ _ => pairsOnto_cons) noName]
  simp [pairsOnto]

theorem documentsOnto_ordinary {done : List (List Group)} {current : List Group} {opened : Bool}
    (ordinary : ∀ group ∈ groups, group.mark.isOrdinary = true) :
    documentsOnto done current opened groups =
      .ok (finish done (groups.reverse ++ current)).reverse :=
  pass_moves (fun current groups => documentsOnto done current opened groups)
    (fun _ _ _ mark => documentsOnto_cons (Mark.ne_of_isOrdinary mark rfl)
      (Mark.ne_of_isOrdinary mark rfl)) ordinary

theorem directivesOnto_ordinary {steps : Nat} (enough : groups.length ≤ steps)
    (ordinary : ∀ group ∈ groups, group.mark.isOrdinary = true) :
    directivesOnto found steps groups = .ok (found.reverse ++ groups) := by
  -- This pass counts its steps, so that `pass_moves` does not apply.
  induction groups generalizing found steps with
  | nil => cases steps <;> simp [directivesOnto]
  | cons group rest inductionHypothesis =>
      rw [List.forall_mem_cons] at ordinary
      cases steps with
      | zero => simp at enough
      | succ steps =>
          rw [directivesOnto_cons (Mark.ne_of_isOrdinary ordinary.1 rfl),
            inductionHypothesis (Nat.le_of_succ_le_succ enough) ordinary.2]
          simp

theorem isOrdinary_single {tokens : List Token}
    (ordinary : ∀ token ∈ tokens, token.mark.isOrdinary = true) :
    ∀ group ∈ tokens.map single, group.mark.isOrdinary = true := by
  rw [List.forall_mem_map]
  exact ordinary

end Group

def markerGroup : Group := .name (.single markerToken) (colonToken 1 7)

def importsGroup (lead : List Char) : Group := .name (.single (importsToken lead)) (colonToken 2 8)

/-- The groups of a configuration: a name with its value, and a name with the tokens of
its list behind it. -/
def listedGroups (value : Token) (lead : List Char) (tokens : List Token) : List Group :=
  .pair markerGroup (.single value) :: importsGroup lead :: tokens.map .single

theorem Listing.starts {texts : List Bytes} {tokens : List Token}
    (listing : Listing texts tokens) :
    ∃ first more, tokens = first :: more ∧ first.mark.isScalar = false ∧ 1 < first.column ∧
      (first.line = 2 → first.mark = .listStart) := by
  cases listing with
  | brackets => exact ⟨_, _, rfl, rfl, by simp, fun _ => rfl⟩
  | items nonempty items =>
      cases items with
      | nil => contradiction
      | cons later _ _ =>
          exact ⟨_, _, rfl, rfl, by simp, fun line => absurd line (Nat.ne_of_gt later)⟩

variable {value : Token} {lead : List Char} {text : Bytes} {texts : List Bytes}
  {tokens : List Token}

theorem namesOnto_listed (isValue : IsValue text 1 9 value) (listing : Listing texts tokens) :
    Group.namesOnto []
      ((markerToken :: colonToken 1 7 :: value :: importsToken lead :: colonToken 2 8 ::
        tokens).map .single) =
      .ok (markerGroup :: .single value :: importsGroup lead :: tokens.map .single) := by
  have noColon : ∀ group ∈ tokens.map Group.single, group.mark ≠ .colon :=
    List.forall_mem_map.mpr fun token member => (listing.marks token member).2
  have rest :=
    Group.namesOnto_without_colon [importsGroup lead, .single value, markerGroup] noColon
  cases isValue <;> exact rest

theorem pairsOnto_listed (isValue : IsValue text 1 9 value) (listing : Listing texts tokens) :
    Group.pairsOnto [] (markerGroup :: .single value :: importsGroup lead :: tokens.map .single) =
      listedGroups value lead tokens := by
  obtain ⟨first, more, rfl, noScalar, -⟩ := listing.starts
  have apart : (Group.single first).isScalar = false := by
    simp [Group.isScalar, Group.isEntry, Group.mark, Group.first, noScalar]
  have joined : Group.pairsOnto []
      (markerGroup :: .single value :: importsGroup lead :: (first :: more).map .single) =
      Group.pairsOnto [.pair markerGroup (.single value)]
        (importsGroup lead :: (first :: more).map .single) := by
    cases isValue <;> rfl
  rw [joined, List.map_cons, Group.pairsOnto, if_neg (by simp [apart]), ← List.map_cons,
    Group.pairsOnto_without_name (List.forall_mem_map.mpr fun _ _ => rfl)]
  rfl

theorem ofTokens_listed {config : Config} (listed : Listed config tokens) :
    ∃ value lead more, IsValue config.marker 1 9 value ∧ Lexer.Lead lead ∧
      Listing config.imports more ∧
      Group.ofTokens tokens = .ok (listedGroups value lead more) := by
  have ordinary := Group.isOrdinary_single listed.isOrdinary
  cases listed with
  | @intro lead value more isValue leads listing =>
      refine ⟨value, lead, more, isValue, leads, listing, ?_⟩
      have parted : ∀ group ∈ listedGroups value lead more, group.mark.isOrdinary = true := by
        simp only [listedGroups, List.forall_mem_cons]
        exact ⟨rfl, rfl,
          List.forall_mem_map.mpr fun token member => (listing.marks token member).1⟩
      simp only [Group.ofTokens, bind, Except.bind, Group.blocksOnto_ordinary ordinary,
        List.reverse_nil, List.nil_append, Group.labelsOnto_ordinary ordinary,
        Group.questionsOnto_ordinary ordinary, namesOnto_listed isValue listing,
        pairsOnto_listed isValue listing]
      rw [Group.directivesOnto_ordinary _ parted]
      · rfl
      · simp [listedGroups]

end ImportSplice.Yaml
