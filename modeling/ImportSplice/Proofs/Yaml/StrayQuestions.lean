import ImportSplice.Proofs.Yaml.ListedSettings
import ImportSplice.Proofs.Yaml.TokenGrowth

/-!
A marker that is a question cannot be read back.  What a pass has found stays in front of
what it makes, so the sign of the question comes through all passes and stands beside the
name whose value it should be, and there no entry may start.
-/

namespace ImportSplice.Yaml

namespace Group

variable {found groups rest result : List Group} {group : Group}

/-! ### What a pass has found stays -/

theorem keeps_of_cons (kept : (group :: found).reverse <+: result) : found.reverse <+: result := by
  rw [List.reverse_cons] at kept
  exact (List.prefix_append _ _).trans kept

variable (found groups) in
theorem blocksOnto_keeps : found.reverse <+: blocksOnto found groups := by
  fun_induction blocksOnto found groups with
  | case1 => exact List.prefix_refl _
  | case2 => simp
  | case3 _ _ _ _ _ inductionHypothesis
  | case4 _ _ _ _ _ inductionHypothesis => exact keeps_of_cons inductionHypothesis

theorem labelsOnto_keeps (made : labelsOnto found groups = .ok result) :
    found.reverse <+: result := by
  fun_induction labelsOnto found groups with
  | case1 =>
      cases made
      exact List.prefix_refl _
  | case2 | case5 | case7 => cases made
  | case3 _ _ _ _ _ _ _ _ inductionHypothesis
  | case4 _ _ _ _ _ _ _ _ inductionHypothesis
  | case6 _ _ _ _ _ _ inductionHypothesis
  | case8 _ _ _ _ _ inductionHypothesis => exact keeps_of_cons (inductionHypothesis made)

theorem questionsOnto_keeps (made : questionsOnto found groups = .ok result) :
    found.reverse <+: result := by
  fun_induction questionsOnto found groups with
  | case1 =>
      cases made
      exact List.prefix_refl _
  | case2 _ _ _ _ inductionHypothesis
  | case3 _ _ _ _ _ inductionHypothesis => exact keeps_of_cons (inductionHypothesis made)
  | case4 => cases made

variable (found groups) in
theorem pairsOnto_keeps : found.reverse <+: pairsOnto found groups := by
  fun_induction pairsOnto found groups with
  | case1 => exact List.prefix_refl _
  | case2 => simp
  | case3 _ _ _ _ _ inductionHypothesis
  | case4 _ _ _ _ _ inductionHypothesis => exact keeps_of_cons inductionHypothesis

theorem directivesOnto_keeps {steps : Nat}
    (made : directivesOnto found steps groups = .ok result) : found.reverse <+: result := by
  fun_induction directivesOnto found steps groups with
  | case1 | case2 =>
      cases made
      exact List.prefix_refl _
  | case3 _ _ _ _ _ inductionHypothesis
  | case4 _ _ _ _ _ _ _ _ inductionHypothesis
  | case5 _ _ _ _ _ _ _ _ _ _ _ _ inductionHypothesis =>
      exact keeps_of_cons (inductionHypothesis made)
  | case6 | case7 => cases made

variable {done results : List (List Group)} {current : List Group} {opened : Bool}

theorem finish_keeps : done.reverse <+: (finish done current).reverse := by
  unfold finish
  split <;> simp

theorem documentsOnto_keeps (made : documentsOnto done current opened groups = .ok results) :
    done.reverse <+: results := by
  fun_induction documentsOnto done current opened groups with
  | case1 | case3 | case4 =>
      cases made
      exact finish_keeps
  | case2 | case5 | case7 => cases made
  | case6 _ _ _ _ _ _ _ _ _ _ inductionHypothesis
  | case8 _ _ _ _ _ _ _ _ inductionHypothesis =>
      exact finish_keeps.trans (inductionHypothesis made)
  | case9 _ _ _ _ _ _ _ inductionHypothesis => exact inductionHypothesis made

theorem finish_starts {later : List (List Group)} (started : current ≠ [])
    (kept : (finish [] current).reverse <+: later) :
    ∃ first more, later = first :: more ∧ current.reverse <+: first := by
  have alone : finish [] current = [current.reverse] := by simp [finish, started]
  rw [alone] at kept
  obtain ⟨more, rfl⟩ := kept
  exact ⟨_, more, rfl, List.prefix_refl _⟩

/-- A document that has been started is the first one. -/
theorem documentsOnto_starts (started : current ≠ [])
    (made : documentsOnto [] current opened groups = .ok results) :
    ∃ first more, results = first :: more ∧ current.reverse <+: first := by
  -- Only a mark finishes the document, and nothing has been done before it.
  generalize nothing : ([] : List (List Group)) = done at made
  fun_induction documentsOnto done current opened groups with
  | case1 | case3 | case4 =>
      cases made
      cases nothing
      exact finish_starts started (List.prefix_refl _)
  | case2 | case5 | case7 => cases made
  | case6 | case8 =>
      cases nothing
      exact finish_starts started (documentsOnto_keeps made)
  | case9 _ _ _ _ _ _ _ inductionHypothesis =>
      obtain ⟨first, more, rfl, kept⟩ := inductionHypothesis (by simp) nothing made
      exact ⟨first, more, rfl, keeps_of_cons kept⟩

/-- Only the last group can become a name, and then its first token stays. -/
theorem namesOnto_keeps (made : namesOnto (group :: found) groups = .ok result) :
    ∃ last more, result = found.reverse ++ last :: more ∧ last.first = group.first ∧
      (group.isEntry = true → last.isEntry = true) := by
  induction groups generalizing group found with
  | nil =>
      cases made
      exact ⟨group, [], by simp, rfl, id⟩
  | cons next rest inductionHypothesis =>
      unfold namesOnto at made
      split at made
      · obtain ⟨last, more, rfl, -, -⟩ := inductionHypothesis made
        exact ⟨group, last :: more, by simp, rfl, id⟩
      · split at made
        · contradiction
        · cases made
        · rename_i same
          cases same
          split at made
          · cases made
          · obtain ⟨last, more, rfl, first, isEntry⟩ := inductionHypothesis made
            exact ⟨last, more, rfl, first, fun _ => isEntry rfl⟩

variable (found groups) in
/-- An entry stays where it is, alone or with its value. -/
theorem pairsOnto_entry (isEntry : group.isEntry = true) :
    ∃ last more, pairsOnto found (group :: groups) = found.reverse ++ last :: more ∧
      last.first = group.first ∧ last.isEntry = true := by
  cases groups with
  | nil => exact ⟨group, [], by simp [pairsOnto], rfl, isEntry⟩
  | cons value rest =>
      rw [pairsOnto]
      split
      · obtain ⟨more, made⟩ := pairsOnto_keeps (pair group value :: found) rest
        exact ⟨pair group value, more, by simpa using made.symm, rfl, rfl⟩
      · obtain ⟨more, made⟩ := pairsOnto_keeps (group :: found) (value :: rest)
        exact ⟨group, more, by simpa using made.symm, rfl, isEntry⟩

end Group

/-- Groups that start with a name and, behind it, with an entry of a sign. -/
inductive Asked (sign : Token) : List Group → Prop where
  | intro {group : Group} {more : List Group} (first : group.first = sign)
      (isEntry : group.isEntry = true) : Asked sign (markerGroup :: group :: more)

namespace Asked

variable {sign : Token} {groups rest result : List Group} {group : Group}

theorem of_front (asked : Asked sign groups) (kept : groups <+: result) : Asked sign result := by
  cases asked with
  | intro first isEntry =>
      obtain ⟨more, rfl⟩ := kept
      exact .intro first isEntry

theorem mark_ne (asks : sign.mark = .question) (first : group.first = sign) {mark : Mark}
    (other : mark ≠ .question) : group.mark ≠ mark := by
  rw [Group.mark, first, asks]
  exact other.symm

theorem questionsOnto (asks : sign.mark = .question)
    (made : Group.questionsOnto []
      (.single markerToken :: .single (colonToken 1 7) :: .single sign :: rest) = .ok result) :
    ∃ label more,
      result = .single markerToken :: .single (colonToken 1 7) :: .question sign label :: more := by
  rw [Group.questionsOnto_cons (by decide), Group.questionsOnto_cons (by decide)] at made
  cases rest with
  | nil => simp [Group.questionsOnto, Group.mark, Group.first, asks] at made
  | cons label rest =>
      have next : Group.questionsOnto [.question sign label, .single (colonToken 1 7),
          .single markerToken] rest = .ok result := by
        simpa [Group.questionsOnto, Group.mark, Group.first, asks] using made
      obtain ⟨more, rfl⟩ := Group.questionsOnto_keeps next
      exact ⟨label, more, rfl⟩

theorem namesOnto {label : Group} (asks : sign.mark = .question)
    (made : Group.namesOnto []
      (.single markerToken :: .single (colonToken 1 7) :: .question sign label :: rest) =
        .ok result) : Asked sign result := by
  have joined : Group.namesOnto [markerGroup] (.question sign label :: rest) = .ok result := made
  rw [Group.namesOnto_cons (mark_ne asks rfl (by decide))] at joined
  obtain ⟨last, more, rfl, first, isEntry⟩ := Group.namesOnto_keeps joined
  exact .intro first (isEntry rfl)

theorem pairsOnto (asked : Asked sign groups) : Asked sign (Group.pairsOnto [] groups) := by
  cases asked with
  | @intro group rest first isEntry =>
      have apart : group.isScalar = false := by simp [Group.isScalar, isEntry]
      rw [Group.pairsOnto, if_neg (by simp [apart])]
      obtain ⟨last, more, made, same, entry⟩ := Group.pairsOnto_entry [markerGroup] rest isEntry
      rw [made]
      exact .intro (same.trans first) entry

theorem directivesOnto {steps : Nat} (asks : sign.mark = .question) (asked : Asked sign groups)
    (made : Group.directivesOnto [] (steps + 2) groups = .ok result) : Asked sign result := by
  cases asked with
  | intro first isEntry =>
      rw [Group.directivesOnto_cons (by decide),
        Group.directivesOnto_cons (mark_ne asks first (by decide))] at made
      exact .of_front (.intro first isEntry) (Group.directivesOnto_keeps made)

theorem ofTokens {tokens : List Token} (asks : sign.mark = .question)
    (made : Group.ofTokens (markerToken :: colonToken 1 7 :: sign :: tokens) = .ok result) :
    Asked sign result := by
  simp only [Group.ofTokens, bind_ok_iff, List.map_cons] at made
  obtain ⟨labelled, labels, questions, questioned, named, names, directives⟩ := made
  have isSign {mark : Mark} : mark ≠ .question → (Group.single sign).mark ≠ mark :=
    mark_ne asks rfl
  -- The first two passes look for other marks and move over all three tokens.
  obtain ⟨others, blocks⟩ := Group.blocksOnto_keeps
    [.single sign, .single (colonToken 1 7), .single markerToken] (tokens.map .single)
  rw [Group.blocksOnto_cons (by decide), Group.blocksOnto_cons (by decide),
    Group.blocksOnto_cons (isSign (by decide)), ← blocks] at labels
  change Group.labelsOnto []
    (.single markerToken :: .single (colonToken 1 7) :: .single sign :: others) = _ at labels
  rw [Group.labelsOnto_cons (by decide) (by decide), Group.labelsOnto_cons (by decide) (by decide),
    Group.labelsOnto_cons (isSign (by decide)) (isSign (by decide))] at labels
  obtain ⟨others, rfl⟩ := Group.labelsOnto_keeps labels
  obtain ⟨label, more, rfl⟩ := Asked.questionsOnto asks questioned
  exact (Asked.namesOnto asks names).pairsOnto.directivesOnto asks directives

/-- A name cannot have an entry beside it. -/
theorem ofGroups (asked : Asked sign groups) (besides : sign.line = 1) (apart : sign.column ≠ 1) :
    Node.ofGroups groups = .error .trailingText := by
  cases asked with
  | @intro group more first isEntry =>
      have notSingle : ∀ next ∈ (group :: more).head?, next.line = 1 →
          next.isSingle .item = false := by
        rintro _ ⟨⟩ -
        cases group <;> first | rfl | contradiction
      have stray (reader : Layout.ValueReader) :
          Layout.nameValue reader false markerGroup (group :: more) = .error .trailingText := by
        have place : (group.column != markerGroup.column && group.line == markerGroup.line &&
            group.isEntry) = true := by
          rw [isEntry, Bool.and_true, Bool.and_eq_true, bne_iff_ne, beq_iff_eq, Group.column,
            Group.line, first]
          exact ⟨apart, besides⟩
        simp [Layout.nameValue, place]
      have refused (reader : Layout.ValueReader) :
          Layout.entry reader false [] markerGroup (group :: more) = .error .trailingText := by
        rw [markerGroup, Layout.entry_name Layout.freshName_marker notSingle]
        exact congrArg (Except.map _) (stray reader)
      have failed (reader : Layout.ValueReader) :
          Layout.entries reader false 1 [] [] (more.length + 1 + 1) (markerGroup :: group :: more) =
            .error .trailingText := by
        rw [Layout.entries, refused]
        rfl
      have value : Layout.value (more.length + 1 + 1) Layout.maxDepth false
          (markerGroup :: group :: more) = .error .trailingText := failed _
      simp [Node.ofGroups, value]

theorem documents {results : List (List Group)} (asks : sign.mark = .question)
    (asked : Asked sign groups) (made : Group.documents groups = .ok results) :
    ∃ first more, results = first :: more ∧ Asked sign first := by
  cases asked with
  | intro first isEntry =>
      rw [Group.documents, Group.documentsOnto_cons (by decide) (by decide),
        Group.documentsOnto_cons (mark_ne asks first (by decide))
          (mark_ne asks first (by decide))] at made
      obtain ⟨document, more, rfl, kept⟩ := Group.documentsOnto_starts (by simp) made
      exact ⟨document, more, rfl, .of_front (.intro first isEntry) kept⟩

end Asked

theorem Lexer.step_question {tokens : List Token} (rest : List Char) :
    (outside (.midway 1 9 0 1) .inside ' ' { spelling := [' '] } tokens).step '?' (' ' :: rest) =
      .ok (outside (.midway 1 10 0 9) .inside '?' {}
        ({ mark := .question, spelling := [' '], line := 1, column := 9 } :: tokens),
        ' ' :: rest) :=
  rfl

theorem scan_asking {config : Config} {tokens : List Token}
    (printable : ∀ text ∈ config.marker :: config.imports, Printable text)
    (asks : AsksQuestion config.marker)
    (scanned : Token.scan (Document.characters (encode config)) = .ok tokens) :
    ∃ sign more, tokens = markerToken :: colonToken 1 7 :: sign :: more ∧
      sign.mark = .question ∧ sign.line = 1 ∧ sign.column = 9 := by
  obtain ⟨bare, words, marker⟩ := asks
  rw [characters_ascii (isAscii_encode printable), encode_printable printable, written,
    if_neg (by simp [bare]), ← marker, Token.scan, map_ok_iff] at scanned
  obtain ⟨final, ran, rfl⟩ := scanned
  let behind := (words ++ 10 :: (ascii "imports:" ++ writtenList config.imports)).map asciiChar
  have reads := Lexer.reads_marker.trans (.single (Lexer.step_question behind))
  obtain ⟨steps, same⟩ := reads.run_rest (Nat.le_refl _)
  rw [List.map_append] at ran
  have kept := List.reverse_prefix.mpr (Lexer.keeps_run (same.symm.trans ran))
  obtain ⟨more, whole⟩ := kept
  rw [← whole]
  exact ⟨_, _, rfl, rfl, rfl, rfl⟩

/-- A configuration whose marker asks a question is not read back. -/
theorem read_asking {config : Config} {document : Document}
    (printable : ∀ text ∈ config.marker :: config.imports, Printable text)
    (asks : AsksQuestion config.marker) : Document.read (encode config) ≠ .ok document := by
  intro read
  unfold Document.read at read
  split at read
  · cases read
  rename_i groups gathered
  obtain ⟨tokens, scanned, made⟩ := bind_ok_iff.mp gathered
  obtain ⟨sign, more, rfl, mark, line, column⟩ := scan_asking printable asks scanned
  have asked := Asked.ofTokens mark made
  have refused : ∀ result, (Group.documents groups).bind (Document.values [] []) ≠ .ok result := by
    intro result valued
    obtain ⟨parts, parted, valued⟩ := bind_ok_iff.mp valued
    obtain ⟨first, more, rfl, asked⟩ := asked.documents mark parted
    rw [Document.values, asked.ofGroups line (by rw [column]; decide)] at valued
    cases valued
  split at read
  · cases read
  · rename_i valued
    exact refused _ valued
  · rename_i valued
    exact refused _ valued

end ImportSplice.Yaml
