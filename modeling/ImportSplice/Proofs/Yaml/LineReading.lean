import Mathlib.Data.List.TakeWhile
import ImportSplice.Proofs.Yaml.PlainWriting

/-!
How a line of plain characters is read outside of brackets and blocks.  A word grows in
the draft character by character, and a line break does not cut it: the word is owed
until the front of the next line shows that it ends there.  `Owing` says what the tokens
will be once the draft is cut.
-/

namespace ImportSplice.Yaml

namespace Draft

/-- A draft that holds all characters of a text. -/
def holding (text spelling : List Char) : Draft :=
  { written := text.reverse
    size := text.length
    kept := (text.reverse.dropWhile isGap).length
    spelling }

variable {text spelling : List Char} {c : Char}

theorem holding_add (starts : text = [] → isGap c = false) :
    ((holding text spelling).add c).spell c = holding (text ++ [c]) (c :: spelling) := by
  have written : (holding text spelling).add c = (holding text spelling).write c (!isGap c) := by
    rw [add, if_neg]
    intro skipped
    rw [Bool.and_eq_true, beq_iff_eq] at skipped
    have empty : text = [] := List.length_eq_zero_iff.mp skipped.1
    simp [starts empty] at skipped
  rw [written]
  cases gap : isGap c <;> simp [write, spell, holding, gap]

variable (spelling) in
theorem hasText_holding : (holding text spelling).hasText = text.any fun c => !isGap c := by
  rw [Bool.eq_iff_iff, hasText, bne_iff_ne, Ne, holding, List.length_eq_zero_iff,
    List.dropWhile_eq_nil_iff, List.any_eq_true]
  simp

theorem holding_whole (ends : ∀ c ∈ text.getLast?, isGap c = false) :
    holding text spelling =
      { written := text.reverse, size := text.length, kept := text.length, spelling } := by
  have whole : text.reverse.dropWhile isGap = text.reverse := by
    cases back : text.reverse with
    | nil => rfl
    | cons c more =>
        have last : text.getLast? = some c := by
          rw [List.getLast?_eq_head?_reverse, back, List.head?_cons]
        rw [List.dropWhile_cons, ends c (by simp [last]), if_neg (by simp)]
  rw [holding, whole, List.length_reverse]

end Draft

/-- A place behind the first character of a line. -/
def Cursor.midway (line : Nat) (column : Int) (indent : Nat) (delimiter : Int) : Cursor :=
  { line, column, indent, atLineStart := false, delimiter }

namespace Lexer

/-- Reading a text up to a rest of it. -/
inductive Reads : Lexer → List Char → Lexer → List Char → Prop where
  | refl (lexer : Lexer) (text : List Char) : Reads lexer text lexer text
  | step {lexer next final : Lexer} {c : Char} {rest after left : List Char}
      (stepped : lexer.step c rest = .ok (next, after)) (shorter : after.length ≤ rest.length)
      (more : Reads next after final left) : Reads lexer (c :: rest) final left

namespace Reads

variable {first second third : Lexer} {text middle left : List Char}

theorem trans (front : Reads first text second middle) (back : Reads second middle third left) :
    Reads first text third left := by
  induction front with
  | refl => exact back
  | step stepped shorter _ inductionHypothesis =>
      exact .step stepped shorter (inductionHypothesis back)

theorem single {c : Char} {rest : List Char} (stepped : first.step c rest = .ok (second, rest)) :
    Reads first (c :: rest) second rest :=
  .step stepped (Nat.le_refl _) (.refl _ _)

/-- A run goes on where reading has come to, if it has a step for each character. -/
theorem run_rest (reads : Reads first text second left) {steps : Nat}
    (enough : text.length ≤ steps) : ∃ more, first.run steps text = second.run more left := by
  induction reads generalizing steps with
  | refl lexer text => exact ⟨steps, rfl⟩
  | step stepped shorter _ inductionHypothesis =>
      cases steps with
      | zero => simp at enough
      | succ steps =>
          rw [Lexer.run, stepped]
          exact inductionHypothesis (Nat.le_trans shorter (Nat.le_of_succ_le_succ enough))

theorem run (reads : Reads first text second []) {steps : Nat} (enough : text.length ≤ steps) :
    first.run steps text = .ok second.flush := by
  obtain ⟨more, ran⟩ := reads.run_rest enough
  rw [ran]
  cases more <;> rfl

end Reads

/-- A lexer outside of brackets and blocks. -/
def outside (cursor : Cursor) (level : Level) (previous : Char) (draft : Draft)
    (tokens : List Token) : Lexer :=
  { cursor, level, previous, draft, tokens }

/-- Whether a character means nothing but itself before the rest of a text, in a word
that has `started` or not. -/
structure PlainAt (started : Bool) (c : Char) (rest : List Char) : Prop where
  visible : c ≠ '#' ∧ c ≠ '\t' ∧ isBreak c = false
  colon : c = ':' → standsAlone rest = false
  merge : c = '<' → ∀ lexer, mergeName lexer rest = .ok none
  first : started = false → c ∉ indicators.map asciiChar ∧
    (c = '-' → standsAlone rest = false) ∧ (c = '?' → (rest.head?.map isGap).getD false = false)

theorem PlainAt.not_gap {c : Char} {rest : List Char} (plain : PlainAt false c rest) :
    isGap c = false := by
  have noSpace : c ≠ ' ' := by
    rintro rfl
    exact (plain.first rfl).1 (by decide)
  simp [isGap, noSpace, plain.visible.2.1]

variable {cursor : Cursor} {line indent : Nat} {column delimiter : Int} {level : Level}
  {previous : Char} {draft : Draft} {tokens : List Token} {c : Char} {rest : List Char}

theorem meaning_plain (apart : column ≠ 1) (plain : PlainAt draft.hasText c rest) :
    meaning c (outside (.midway line column indent delimiter) .inside previous draft tokens) rest =
      .ok none := by
  have text : c ∈ indicators.map asciiChar → draft.hasText = true := by
    intro sign
    rw [← Bool.not_eq_false]
    intro missing
    exact (plain.first missing).1 sign
  unfold meaning
  split
  · simp [opening, outside, inFlow, text (by decide)]
  · simp [closeMap, outside]
  · simp [opening, outside, inFlow, text (by decide)]
  · simp [closeList, outside, text (by decide)]
  · simp [comma, outside, inFlow]
  · simp [documentEnd, atMargin, outside, Cursor.midway, apart]
  · exact plain.merge rfl _
  · have notStart : documentStart
        (outside (.midway line column indent delimiter) .inside previous draft tokens) rest =
          none := by
      simp [documentStart, atMargin, outside, Cursor.midway, apart]
    rw [dash, notStart]
    cases started : draft.hasText with
    | true => simp [outside, started]
    | false => simp [outside, started, (plain.first started).2.1 rfl]
  · simp [Lexer.colon, endsName, outside, Cursor.midway, plain.colon rfl]
  · simp [blockHeader, outside, text (by decide)]
  · simp [blockHeader, outside, text (by decide)]
  · simp [reserved, outside, text (by decide)]
  · simp [reserved, outside, text (by decide)]
  · simp [reserved, outside, text (by decide)]
  · simp [directive, outside, text (by decide)]
  · cases started : draft.hasText with
    | true => simp [question, outside, started]
    | false => simp [question, outside, started, (plain.first started).2.2 rfl]
  · simp [label, outside, text (by decide)]
  · simp [label, outside, text (by decide)]
  · exact absurd rfl plain.visible.1
  · simp [singleQuote, outside, text (by decide)]
  · simp [doubleQuote, outside, text (by decide)]
  · exact absurd plain.visible.2.2 (by decide)
  · exact absurd plain.visible.2.2 (by decide)
  · simp [space, outside, Cursor.midway]
  · exact absurd rfl plain.visible.2.1
  · rfl

/-- Behind the first character of a line, only the meaning of a character counts. -/
theorem step_midway :
    (outside (.midway line column indent delimiter) level previous draft tokens).step c rest =
      ((outside (.midway line column indent delimiter) .inside previous draft tokens).freeChar
        c rest).map fun (next, rest) => ({ next with previous := c }, rest) :=
  rfl

variable (line indent delimiter level previous tokens) in
theorem step_plain (apart : column ≠ 1) (plain : PlainAt draft.hasText c rest) :
    (outside (.midway line column indent delimiter) level previous draft tokens).step c rest =
      .ok (outside (.midway line (column + 1) indent delimiter) .inside c ((draft.add c).spell c)
        tokens, rest) := by
  rw [step_midway, freeChar, meaning_plain apart plain]
  rfl

/-- Whether all characters of a word are plain ones before the rest of a text. -/
def PlainWord (started : Bool) : List Char → List Char → Prop
  | [], _ => True
  | c :: more, rest => PlainAt started c (more ++ rest) ∧ PlainWord true more rest

variable (line indent delimiter level previous tokens) in
theorem reads_word (text spelling : List Char) {word : List Char} (apart : 1 < column)
    (plain : PlainWord (text.any fun c => !isGap c) word rest) :
    ∃ level' previous', Reads
      (outside (.midway line column indent delimiter) level previous (.holding text spelling)
        tokens) (word ++ rest)
      (outside (.midway line (column + word.length) indent delimiter) level' previous'
        (.holding (text ++ word) (word.reverse ++ spelling)) tokens) rest := by
  -- Only the first character of a word depends on what the draft holds before it.
  induction word generalizing column level previous text spelling with
  | nil => exact ⟨level, previous, by simpa using Reads.refl _ _⟩
  | cons c more inductionHypothesis =>
      obtain ⟨here, later⟩ := plain
      have counts : (text.any fun c => !isGap c) = false → isGap c = false := by
        intro missing
        rw [missing] at here
        exact here.not_gap
      have started : ((text ++ [c]).any fun c => !isGap c) = true := by
        rw [List.any_append, Bool.or_eq_true]
        cases missing : text.any fun c => !isGap c with
        | true => exact .inl rfl
        | false => exact .inr (by simp [counts missing])
      rw [← started] at later
      obtain ⟨level', previous', reads⟩ :=
        inductionHypothesis .inside c (text ++ [c]) (c :: spelling) (by omega : 1 < column + 1)
          later
      refine ⟨level', previous', ?_⟩
      rw [← Draft.hasText_holding spelling] at here
      have stepped := step_plain line indent delimiter level previous tokens
        (by omega : column ≠ 1) here
      rw [Draft.holding_add fun empty => counts (by simp [empty])] at stepped
      have whole := (Reads.single stepped).trans reads
      simpa [Int.add_assoc, Int.add_comm 1] using whole

/-- A lexer in the blanks at the front of a line. -/
def fresh (line indent : Nat) (delimiter : Int) (previous : Char) (draft : Draft)
    (start : Option (Nat × Int)) (tokens : List Token) : Lexer :=
  { cursor := { line, column := indent + 1, indent, delimiter }
    level := .inside
    previous
    draft
    draftStart := start
    tokens }

/-- Characters that may stand before a word. -/
def Lead (spelling : List Char) : Prop := ∀ c ∈ spelling, c = ' ' ∨ c = '\n'

/-- The tokens will be as said when the draft is cut: it holds no text, or a word of an
earlier line that makes them so. -/
inductive Owing (made : List Token → Prop) : Draft → Option (Nat × Int) → List Token → Prop where
  | settled (spelling : List Char) {tokens : List Token} (lead : Lead spelling)
      (done : made tokens) : Owing made { spelling } none tokens
  | word {word : List Char} (spelling : List Char) {line : Nat} {column : Int}
      {tokens : List Token} (nonempty : word ≠ [])
      (done : ∀ spelling,
        made ({ mark := .word, value := word, spelling, line, column } :: tokens)) :
      Owing made
        { written := ' ' :: word.reverse, size := word.length + 1, kept := word.length, spelling }
        (some (line, column)) tokens

/-- A word of an earlier line, which blanks may follow in the draft. -/
theorem flush_word (pad : List Char) {word written spelling : List Char} {size : Nat}
    (nonempty : word ≠ []) (text : written = pad ++ word.reverse)
    (sized : size = pad.length + word.length) :
    ({ cursor, level, previous, tokens
       draft := { written, size, kept := word.length, spelling }
       draftStart := some (line, column) } : Lexer).flush =
      outside cursor level previous {}
        ({ mark := .word, value := word, spelling := spelling.reverse, line, column } ::
          tokens) := by
  subst text sized
  simp [flush, cut, gathered, Draft.text, Draft.keptText, draftPlace, outside, nonempty]

namespace Owing

variable {made : List Token → Prop} {start : Option (Nat × Int)}

theorem spell (owing : Owing made draft start tokens) :
    Owing made (draft.spell ' ') start tokens := by
  cases owing with
  | settled _ lead done => exact .settled _ (List.forall_mem_cons.mpr ⟨.inl rfl, lead⟩) done
  | word _ nonempty done => exact .word _ nonempty done

theorem flush (owing : Owing made draft start tokens) :
    ∃ spelling found, Lead spelling ∧ made found ∧ ∀ cursor level previous,
      ({ cursor, level, previous, draft, draftStart := start, tokens } : Lexer).flush =
        outside cursor level previous { spelling } found := by
  cases owing with
  | settled spelling lead done => exact ⟨spelling, tokens, lead, done, fun _ _ _ => rfl⟩
  | word spelling nonempty done =>
      refine ⟨[], _, by simp [Lead], done spelling.reverse, fun _ _ _ => ?_⟩
      exact flush_word [' '] nonempty rfl (Nat.add_comm _ _)

theorem of_none (owing : Owing made draft none tokens) :
    ∃ spelling, Lead spelling ∧ made tokens ∧ draft = { spelling } := by
  cases owing with
  | settled spelling lead done => exact ⟨spelling, lead, done, rfl⟩

end Owing

/-- A lexer after a line break. -/
def ended (lexer : Lexer) : Lexer :=
  { lexer with
    draft := lexer.breakDraft.spell '\n'
    cursor := lexer.cursor.nextLine
    previous := '\n' }

variable (line indent column delimiter level previous tokens rest) in
theorem step_break (untrimmed : draft.trimLine = draft) :
    (outside (.midway line column indent delimiter) level previous draft tokens).step '\n' rest =
      let started : Lexer :=
        { cursor := .midway line column indent delimiter, level := .inside, previous, draft, tokens
          draftStart := if draft.size = 0 then none else some (line, column - draft.kept) }
      .ok ((if rest = [] then started.flush else started).ended, rest) := by
  rw [step_midway]
  simp only [freeChar, meaning, lineBreak, outside, untrimmed]
  cases rest <;> by_cases empty : draft.size = 0 <;> simp [empty] <;> rfl

theorem step_break_empty :
    (outside (.midway line column indent delimiter) level previous {} tokens).step '\n' rest =
      .ok (fresh (line + 1) 0 delimiter '\n' { spelling := ['\n'] } none tokens, rest) := by
  cases rest <;> rfl

variable (line indent column delimiter level previous tokens rest) in
theorem reads_break_word {word : List Char} (lead : List Char) (made : List Token → Prop)
    (nonempty : word ≠ []) (ends : ∀ c ∈ word.getLast?, isGap c = false)
    (done : ∀ spelling,
      made ({ mark := .word, value := word, spelling, line, column := column - word.length } ::
        tokens)) :
    ∃ draft start found, Owing made draft start found ∧ Reads
      (outside (.midway line column indent delimiter) level previous
        (.holding word (word.reverse ++ lead)) tokens) ('\n' :: rest)
      (fresh (line + 1) 0 delimiter '\n' draft start found) rest := by
  -- At the end of the text the word is cut at once, else it stays in the draft.
  have untrimmed : (Draft.holding word (word.reverse ++ lead)).trimLine =
      .holding word (word.reverse ++ lead) := by
    rw [Draft.trimLine, if_neg]
    rw [Draft.holding, List.head?_append, ← List.getLast?_eq_head?_reverse]
    cases last : word.getLast? with
    | none => exact absurd (List.getLast?_eq_none_iff.mp last) nonempty
    | some c => simp [ends c last]
  have started : word.length ≠ 0 := by simpa using nonempty
  have stepped := step_break line indent column delimiter level previous tokens rest untrimmed
  rw [Draft.holding_whole ends] at stepped ⊢
  cases rest with
  | nil =>
      refine ⟨_, _, _, .settled ['\n'] (by simp [Lead])
        (done (word.reverse ++ lead).reverse), .single (stepped.trans ?_)⟩
      simp only [if_neg started, if_true]
      rw [flush_word [] nonempty (List.nil_append _).symm (Nat.zero_add _).symm]
      rfl
  | cons next more =>
      refine ⟨_, _, _, .word ('\n' :: (word.reverse ++ lead)) nonempty done,
        .single (stepped.trans ?_)⟩
      simp only [ended, reduceCtorEq, if_false, Cursor.midway, List.length_eq_zero_iff, nonempty,
        breakDraft, Bool.and_false, Bool.false_eq_true, Draft.add, Bool.and_eq_true, beq_iff_eq,
        false_and]
      rfl

theorem tabBeforeName_eq_false {lexer : Lexer} (noTab : '\t' ∉ lexer.draft.spelling) :
    lexer.tabBeforeName = false := by
  simp only [tabBeforeName, Bool.and_eq_false_iff, beq_eq_false_iff_ne]
  left
  intro first
  rw [← List.mem_reverse] at noTab
  split at first
  · exact noTab (List.mem_of_mem_tail (List.mem_of_head? first))
  · exact noTab (List.mem_of_head? first)

variable (line indent column delimiter level previous tokens) in
theorem step_colon {name spelling : List Char} (nonempty : name ≠ [])
    (ends : ∀ c ∈ name.getLast?, isGap c = false) (noTab : '\t' ∉ spelling)
    (alone : standsAlone rest = true) :
    (outside (.midway line column indent delimiter) level previous (.holding name spelling)
      tokens).step ':' rest =
      .ok (outside (.midway line (column + 1) indent (column - name.length)) .inside ':' {}
        ({ mark := .colon, line, column } ::
          { mark := .word, value := name, spelling := spelling.reverse, line
            column := column - name.length } :: tokens), rest) := by
  rw [step_midway, Draft.holding_whole ends, freeChar]
  simp only [meaning, colon]
  rw [if_neg (by simp [endsName, outside, Cursor.midway, alone]),
    tabBeforeName_eq_false noTab]
  simp only [Bool.false_eq_true, if_false, cut, gathered, outside, Draft.text, Draft.keptText,
    Nat.le_refl, if_true, Nat.sub_self, List.drop_zero, List.reverse_reverse, List.isEmpty_iff,
    nonempty, Option.isSome_none, draftPlace]
  rfl

variable (line previous rest) in
/-- The front of an item's line, which cuts what is owed. -/
theorem reads_dash {made : List Token → Prop} {start : Option (Nat × Int)}
    (owing : Owing made draft start tokens)
    (deep : delimiter = 3 ∨ delimiter = 1 ∧ start = none) :
    ∃ spelling found, made found ∧ Reads
      (fresh line 0 delimiter previous draft start tokens) (' ' :: ' ' :: '-' :: ' ' :: rest)
      (outside (.midway line 5 2 3) .inside ' ' { spelling := [' '] }
        ({ mark := .item, spelling, line, column := 3 } :: found)) rest := by
  have first : Reads (fresh line 0 delimiter previous draft start tokens)
      (' ' :: ' ' :: '-' :: ' ' :: rest)
      (fresh line 1 delimiter ' ' (draft.spell ' ') start tokens) (' ' :: '-' :: ' ' :: rest) :=
    .single rfl
  have second : Reads (fresh line 1 delimiter ' ' (draft.spell ' ') start tokens)
      (' ' :: '-' :: ' ' :: rest)
      (fresh line 2 delimiter ' ' ((draft.spell ' ').spell ' ') start tokens)
      ('-' :: ' ' :: rest) :=
    .single rfl
  have margin := first.trans second
  have gap (level : Level) (found : List Token) : Reads
      (outside (.midway line 4 2 3) level '-' {} found) (' ' :: rest)
      (outside (.midway line 5 2 3) .inside ' ' { spelling := [' '] } found) rest :=
    .single rfl
  -- A dash in the column of the last one cuts the draft; a deeper one would join it, but
  -- then the draft holds nothing.
  rcases deep with rfl | ⟨rfl, rfl⟩
  · obtain ⟨spelling, found, -, done, cut⟩ := owing.spell.spell.flush
    refine ⟨('-' :: spelling).reverse, found, done,
      margin.trans (.trans (.single ?_) (gap .shallower _))⟩
    have judged : (fresh line 2 3 ' ' ((draft.spell ' ').spell ' ') start tokens).judge '-' =
        { cursor := .midway line 3 2 3, level := .shallower, previous := ' '
          draft := (draft.spell ' ').spell ' ', draftStart := start, tokens } := rfl
    simp only [step, judged, BEq.rfl, if_true, cut]
    rfl
  · obtain ⟨spelling, -, done, rfl⟩ := owing.of_none
    exact ⟨('-' :: ' ' :: ' ' :: spelling).reverse, tokens, done,
      margin.trans (.trans (.single rfl) (gap .deeper _))⟩

end Lexer

end ImportSplice.Yaml
