import ImportSplice.Proofs.Yaml.ValueReading

/-!
The tokens of a configuration that has been written: a name, a colon and a value on the
first line, and a second name with the items of a list, or with empty brackets.  `Listed`
is their shape, and `scan_encode` says that scanning finds it.
-/

namespace ImportSplice.Yaml

/-- The marks of values, of names and of lists. -/
def Mark.isOrdinary : Mark → Bool
  | word | quoted | item | colon | listStart | listEnd => true
  | _ => false

variable {text : Bytes} {texts : List Bytes} {tokens : List Token}

theorem IsValue.mark {line : Nat} {column : Int} {token : Token}
    (isValue : IsValue text line column token) :
    token.mark.isOrdinary = true ∧ token.mark ≠ .colon := by
  cases isValue <;> simp [Mark.isOrdinary]

/-- A name in the first column. -/
def nameToken (name lead : List Char) (line : Nat) : Token :=
  { mark := .word, value := name, spelling := lead ++ name, line, column := 1 }

def colonToken (line : Nat) (column : Int) : Token := { mark := .colon, line, column }

def markerToken : Token := nameToken "marker".toList [] 1

def importsToken (lead : List Char) : Token := nameToken "imports".toList lead 2

/-- The tokens of items; lines are counted from one. -/
inductive Items : List Bytes → List Token → Prop where
  | nil : Items [] []
  | cons {text : Bytes} {texts : List Bytes} {spelling : List Char} {line : Nat} {value : Token}
      {tokens : List Token} (later : 2 < line) (isValue : IsValue text line 5 value)
      (more : Items texts tokens) :
      Items (text :: texts) ({ mark := .item, spelling, line, column := 3 } :: value :: tokens)

/-- The tokens of a list: brackets, or items below its name. -/
inductive Listing : List Bytes → List Token → Prop where
  | brackets {front back : List Char} :
      Listing []
        [{ mark := .listStart, spelling := front, line := 2, column := 10 },
          { mark := .listEnd, spelling := back, line := 2, column := 11 }]
  | items {texts : List Bytes} {tokens : List Token} (nonempty : texts ≠ [])
      (items : Items texts tokens) : Listing texts tokens

/-- The tokens of a configuration. -/
inductive Listed (config : Config) : List Token → Prop where
  | intro {lead : List Char} {value : Token} {tokens : List Token}
      (isValue : IsValue config.marker 1 9 value) (leads : Lexer.Lead lead)
      (listing : Listing config.imports tokens) :
      Listed config
        (markerToken :: colonToken 1 7 :: value :: importsToken lead :: colonToken 2 8 :: tokens)

theorem Items.marks (items : Items texts tokens) :
    ∀ token ∈ tokens, token.mark.isOrdinary = true ∧ token.mark ≠ .colon := by
  induction items with
  | nil => simp
  | cons _ isValue _ inductionHypothesis =>
      rw [List.forall_mem_cons, List.forall_mem_cons]
      exact ⟨by simp [Mark.isOrdinary], isValue.mark, inductionHypothesis⟩

theorem Items.length_texts (items : Items texts tokens) : texts.length ≤ tokens.length := by
  induction items with
  | nil => exact Nat.le_refl _
  | cons _ _ _ inductionHypothesis =>
      simp only [List.length_cons]
      omega

theorem Listing.marks (listing : Listing texts tokens) :
    ∀ token ∈ tokens, token.mark.isOrdinary = true ∧ token.mark ≠ .colon := by
  cases listing with
  | brackets => simp [Mark.isOrdinary]
  | items _ items => exact items.marks

theorem Listed.isOrdinary {config : Config} (listed : Listed config tokens) :
    ∀ token ∈ tokens, token.mark.isOrdinary = true := by
  cases listed with
  | intro isValue _ listing =>
      simp only [List.forall_mem_cons]
      exact ⟨rfl, rfl, isValue.mark.1, rfl, rfl, fun token member => (listing.marks token member).1⟩

namespace Lexer

variable {line : Nat} {delimiter : Int} {level : Level} {previous : Char} {draft : Draft}
  {start : Option (Nat × Int)} {rest : List Char}
  {made : List Token → Prop}

variable (rest) in
theorem plainWord_letters {word : List Char} (letters : ∀ c ∈ word, c.isLower = true) :
    PlainWord true word rest := by
  induction word with
  | nil => trivial
  | cons c more inductionHypothesis =>
      rw [List.forall_mem_cons] at letters
      have differs : ∀ other, other.isLower = false → c ≠ other := by
        rintro other upper rfl
        rw [letters.1] at upper
        contradiction
      refine ⟨⟨⟨differs _ rfl, differs _ rfl, ?_⟩, fun same => absurd same (differs _ rfl),
        fun same => absurd same (differs _ rfl), by simp⟩, inductionHypothesis letters.2⟩
      simp only [isBreak, Bool.or_eq_false_iff, beq_eq_false_iff_ne]
      exact ⟨differs _ rfl, differs _ rfl⟩

variable (tokens line delimiter level previous) in
/-- The rest of a name whose first letter has been read, and the colon behind it. -/
theorem reads_name {c : Char} {more lead : List Char}
    (letters : ∀ letter ∈ c :: more, letter.isLower = true) (leads : Lead lead)
    (alone : standsAlone rest = true) :
    Reads (outside (.midway line 2 0 delimiter) level previous (.holding [c] (c :: lead)) tokens)
      (more ++ ':' :: rest)
      (outside (.midway line (more.length + 3) 0 1) .inside ':' {}
        (colonToken line (more.length + 2) ::
          nameToken (c :: more) lead.reverse line :: tokens)) rest := by
  have notGap : ∀ letter ∈ c :: more, isGap letter = false := by
    intro letter member
    simp only [isGap, Bool.or_eq_false_iff, beq_eq_false_iff_ne]
    constructor
    all_goals
      rintro rfl
      exact absurd (letters _ member) (by decide)
  have started : ([c].any fun c => !isGap c) = true := by simp [notGap c List.mem_cons_self]
  have word := plainWord_letters (':' :: rest) (List.forall_mem_cons.mp letters).2
  rw [← started] at word
  obtain ⟨level', previous', reads⟩ := reads_word line 0 delimiter level previous tokens [c]
    (c :: lead) (by decide : (1 : Int) < 2) word
  have noTab : '\t' ∉ more.reverse ++ c :: lead := by
    intro tab
    rw [List.mem_append, List.mem_reverse, List.mem_cons] at tab
    rcases tab with inner | first | before
    · exact absurd (letters _ (List.mem_cons_of_mem _ inner)) (by decide)
    · exact absurd (letters c List.mem_cons_self) (by rw [← first]; decide)
    · exact absurd (leads _ before) (by decide)
  have colon := step_colon line 0 (2 + more.length) delimiter level' previous' tokens
    (by simp : [c] ++ more ≠ [])
    (fun letter last => notGap letter (List.mem_of_getLast? last)) noTab alone
  have place : (2 + more.length : Int) - ([c] ++ more).length = 1 := by
    simp only [List.cons_append, List.nil_append, List.length_cons]
    omega
  rw [place] at colon
  have whole := reads.trans (.single colon)
  simpa [nameToken, colonToken, Int.add_comm, Int.add_assoc, Int.add_left_comm] using whole

theorem map_writtenItem {text more : Bytes} :
    (writtenItem text ++ more).map asciiChar =
      ' ' :: ' ' :: '-' :: ' ' :: ((written text).map asciiChar ++ '\n' :: more.map asciiChar) := by
  rw [writtenItem, List.append_assoc, List.append_assoc, List.map_append, List.map_append]
  rfl

variable (previous made) in
theorem reads_items {texts : List Bytes}
    (right : ∀ text ∈ texts, Printable text ∧ ¬ AsksQuestion text) (later : 2 < line)
    (owing : Owing made draft start tokens)
    (deep : delimiter = 3 ∨ delimiter = 1 ∧ start = none) :
    ∃ final base items, made base ∧ Items texts items ∧ final.flush.tokens = items.reverse ++ base ∧
      Reads (fresh line 0 delimiter previous draft start tokens)
        ((texts.flatMap writtenItem).map asciiChar) final [] := by
  -- The value of an item is owed until the dash of the next one, or the end of the text,
  -- cuts it: what the tokens are to be is general in the induction.
  induction texts generalizing line delimiter previous draft start tokens made with
  | nil =>
      obtain ⟨spelling, found, -, done, cut⟩ := owing.flush
      exact ⟨_, found, [], done, .nil, congrArg Lexer.tokens (cut _ _ _), .refl _ _⟩
  | cons text texts inductionHypothesis =>
      rw [List.forall_mem_cons] at right
      let after := (texts.flatMap writtenItem).map asciiChar
      obtain ⟨spelling, found, done, dash⟩ := reads_dash line previous
        ((written text).map asciiChar ++ '\n' :: after) owing deep
      let item : Token := { mark := .item, spelling, line, column := 3 }
      obtain ⟨draft', start', found', owing', value⟩ := reads_value line 2 3 .inside ' '
        (item :: found) after (by decide : (1 : Int) < 5) right.1.1 right.1.2
      obtain ⟨final, base, items, ⟨token, isValue, rfl⟩, more, cut, reads⟩ :=
        inductionHypothesis '\n' _ right.2 (Nat.lt_succ_of_lt later) owing' (.inl rfl)
      refine ⟨final, found, item :: token :: items, done, .cons later isValue more, ?_, ?_⟩
      · simpa using cut
      · rw [List.flatMap_cons, map_writtenItem]
        exact dash.trans (value.trans reads)

theorem reads_marker :
    Reads {} ("marker: ".toList ++ rest)
      (outside (.midway 1 9 0 1) .inside ' ' { spelling := [' '] }
        [colonToken 1 7, markerToken]) rest := by
  have first : Reads {} ("marker: ".toList ++ rest)
      (outside (.midway 1 2 0 0) .unknown 'm' (.holding ['m'] ['m']) [])
      ("arker".toList ++ ':' :: ' ' :: rest) := .single rfl
  have letters : ∀ c ∈ "marker".toList, c.isLower = true :=
    List.all_eq_true.mp (by decide)
  have name := reads_name [] 1 0 .unknown 'm' letters (by simp [Lead] : Lead [])
    (rfl : standsAlone (' ' :: rest) = true)
  exact first.trans (name.trans (.single rfl))

variable (previous) in
theorem reads_imports (owing : Owing made draft start tokens) (alone : standsAlone rest = true) :
    ∃ lead found, Lead lead ∧ made found ∧
      Reads (fresh 2 0 1 previous draft start tokens) ("imports:".toList ++ rest)
        (outside (.midway 2 9 0 1) .inside ':' {}
          (colonToken 2 8 :: importsToken lead :: found)) rest := by
  obtain ⟨spelling, found, leads, done, cut⟩ := owing.flush
  have judged : (fresh 2 0 1 previous draft start tokens).judge 'i' =
      { cursor := .midway 2 1 0 1, level := .shallower, previous, draft, draftStart := start
        tokens } := rfl
  have stepped : ∀ rest, (fresh 2 0 1 previous draft start tokens).step 'i' rest =
      .ok (outside (.midway 2 2 0 1) .shallower 'i' (.holding ['i'] ('i' :: spelling)) found,
        rest) := by
    intro rest
    simp only [step, judged, BEq.rfl, if_true, cut]
    rfl
  have letters : ∀ c ∈ "imports".toList, c.isLower = true :=
    List.all_eq_true.mp (by decide)
  have name := reads_name found 2 1 .shallower 'i' letters leads alone
  refine ⟨spelling.reverse, found, ?_, done, .trans (.single (stepped _)) name⟩
  intro c member
  exact leads c (List.mem_reverse.mp member)

theorem reads_brackets :
    Reads (outside (.midway 2 9 0 1) .inside ':' {} tokens) " []\n".toList
      (fresh 3 0 1 '\n' { spelling := ['\n'] } none
        ({ mark := .listEnd, spelling := [']'], line := 2, column := 11 } ::
          { mark := .listStart, spelling := [' ', '['], line := 2, column := 10 } :: tokens))
      [] := by
  let started : Token := { mark := .listStart, spelling := [' ', '['], line := 2, column := 10 }
  let opened : Lexer :=
    { cursor := .midway 2 11 0 1
      level := .inside
      lists := 1
      previous := '['
      tokens := started :: tokens }
  have front : Reads (outside (.midway 2 9 0 1) .inside ':' {} tokens) (' ' :: ['[', ']', '\n'])
      (outside (.midway 2 10 0 1) .inside ' ' { spelling := [' '] } tokens) ['[', ']', '\n'] :=
    .single rfl
  have opens : Reads (outside (.midway 2 10 0 1) .inside ' ' { spelling := [' '] } tokens)
      ['[', ']', '\n'] opened [']', '\n'] := .single rfl
  have closes : Reads opened [']', '\n'] (outside (.midway 2 12 0 1) .inside ']' {}
      ({ mark := .listEnd, spelling := [']'], line := 2, column := 11 } :: started :: tokens))
      ['\n'] := .single rfl
  exact front.trans (opens.trans (closes.trans (.single step_break_empty)))

variable (tokens) in
theorem reads_list {texts : List Bytes}
    (right : ∀ text ∈ texts, Printable text ∧ ¬ AsksQuestion text) :
    ∃ final found, Listing texts found ∧ final.flush.tokens = found.reverse ++ tokens ∧
      Reads (outside (.midway 2 9 0 1) .inside ':' {} tokens) ((writtenList texts).map asciiChar)
        final [] := by
  unfold writtenList
  split
  · rename_i empty
    subst empty
    exact ⟨_, _, .brackets, rfl, reads_brackets⟩
  · rename_i nonempty
    obtain ⟨final, base, items, rfl, listed, cut, reads⟩ := reads_items '\n' (· = tokens) right
      (by decide : 2 < 3) (.settled ['\n'] (by simp [Lead]) rfl) (.inr ⟨rfl, rfl⟩)
    exact ⟨final, items, .items nonempty listed, cut, .trans (.single step_break_empty) reads⟩

theorem standsAlone_writtenList (texts : List Bytes) :
    standsAlone ((writtenList texts).map asciiChar) = true := by
  unfold writtenList
  split <;> rfl

theorem reads_written {config : Config}
    (right : ∀ text ∈ config.marker :: config.imports, Printable text ∧ ¬ AsksQuestion text) :
    ∃ final, Listed config final.flush.tokens.reverse ∧
      Reads {} ((encode config).map asciiChar) final [] := by
  have text := encode_printable fun text member => (right text member).1
  rw [List.forall_mem_cons] at right
  obtain ⟨draft, start, found, owing, value⟩ := reads_value 1 0 1 .inside ' '
    [colonToken 1 7, markerToken]
    ((ascii "imports:" ++ writtenList config.imports).map asciiChar)
    (by decide : (1 : Int) < 9) right.1.1 right.1.2
  obtain ⟨lead, named, leads, ⟨token, isValue, rfl⟩, name⟩ := reads_imports '\n' owing
    (standsAlone_writtenList config.imports)
  obtain ⟨final, more, listing, cut, list⟩ := reads_list
    [colonToken 2 8, importsToken lead, token, colonToken 1 7, markerToken] right.2
  refine ⟨final, ?_, ?_⟩
  · rw [cut]
    simpa using Listed.intro isValue leads listing
  · rw [text]
    rw [List.map_append, List.map_append, List.map_cons]
    exact reads_marker.trans (value.trans (name.trans list))

end Lexer

theorem isAscii_encode {config : Config}
    (printable : ∀ text ∈ config.marker :: config.imports, Printable text) :
    IsAscii (encode config) := by
  rw [encode_printable printable]
  rw [List.forall_mem_cons] at printable
  have front : IsAscii (ascii "marker: ") := by decide
  have between : IsAscii (10 :: ascii "imports:") := by decide
  have list : IsAscii (writtenList config.imports) := by
    unfold writtenList
    split
    · decide
    · refine List.forall_mem_cons.mpr ⟨by decide, ?_⟩
      intro byte member
      obtain ⟨text, inside, shown⟩ := List.mem_flatMap.mp member
      have item : IsAscii (writtenItem text) :=
        ((by decide : IsAscii (ascii "  - ")).append
          (printable_written (printable.2 text inside)).isAscii).append (by decide)
      exact item byte shown
  exact front.append ((printable_written printable.1).isAscii.append (between.append list))

theorem scan_encode {config : Config}
    (right : ∀ text ∈ config.marker :: config.imports, Printable text ∧ ¬ AsksQuestion text) :
    ∃ tokens, Token.scan (Document.characters (encode config)) = .ok tokens ∧
      Listed config tokens := by
  obtain ⟨final, listed, reads⟩ := Lexer.reads_written right
  have comments : (final.flush.tokens.reverse.filter fun token => token.mark != .comment) =
      final.flush.tokens.reverse := by
    rw [List.filter_eq_self]
    intro token member
    have ordinary := listed.isOrdinary token member
    rw [bne_iff_ne]
    intro comment
    simp [comment, Mark.isOrdinary] at ordinary
  refine ⟨_, ?_, listed⟩
  rw [characters_ascii (isAscii_encode fun text member => (right text member).1), Token.scan,
    reads.run (Nat.le_refl _), Except.map, comments]

end ImportSplice.Yaml
