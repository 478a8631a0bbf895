import ImportSplice.Proofs.Yaml.LineReading

/-!
How a text that has been written as a value is read.  A text in quotes comes back as it
was.  A bare one does too, with two exceptions that the rules for quoting leave out: nine
words that are read as numbers beyond all digits, and a question mark before a blank.
-/

namespace ImportSplice.Yaml

namespace Printable

variable {text : Bytes}

theorem cons_iff {byte : UInt8} :
    Printable (byte :: text) ↔ (0x20 ≤ byte ∧ byte ≤ 0x7E) ∧ Printable text :=
  List.forall_mem_cons

theorem asciiChar_ne (printable : Printable text) {byte : UInt8} (member : byte ∈ text) :
    asciiChar byte ≠ '\t' ∧ isBreak (asciiChar byte) = false := by
  have differs : ∀ other : UInt8, other < 0x20 → asciiChar byte ≠ asciiChar other := by
    intro other low same
    rw [asciiChar_inj] at same
    rw [← same] at low
    exact absurd (printable byte member).1 (UInt8.not_le.mpr low)
  refine ⟨differs 9 (by decide), ?_⟩
  simp only [isBreak, Bool.or_eq_false_iff, beq_eq_false_iff_ne]
  exact ⟨differs 10 (by decide), differs 13 (by decide)⟩

end Printable

namespace Quotation

variable {cursor : Cursor} {value spelling rest : List Char} {c : Char}

theorem double_plain (seen : c ≠ '\t' ∧ isBreak c = false) (plain : c ≠ '\\' ∧ c ≠ '\x22') :
    double cursor value spelling false false 0 (c :: rest) =
      double (cursor.advance 1) (c :: value) (c :: spelling) false false 0 rest := by
  simp [double, seen, plain]

theorem double_escape (escapes : escape (c :: rest) = .ok (.char c 1)) :
    double cursor value spelling false false 0 ('\\' :: c :: rest) =
      double (cursor.advance 2) (c :: value) (c :: '\\' :: spelling) false false 0 rest := by
  simp [double, escapes, isBreak, Cursor.advance, Int.add_assoc]

variable (cursor value spelling) in
theorem double_escaped {text : Bytes} (printable : Printable text) :
    double cursor value spelling false false 0
        ((escaped text).map asciiChar ++ '\x22' :: rest) =
      .ok
        { cursor := cursor.advance ((escaped text).length + 2)
          value := value.reverse ++ text.map asciiChar
          spelling := '\x22' :: (((escaped text).map asciiChar).reverse ++ spelling)
          rest } := by
  induction text generalizing cursor value spelling with
  | nil => simp [escaped, double, isBreak, Cursor.advance, Int.add_assoc]
  | cons byte more inductionHypothesis =>
      have seen := printable.asciiChar_ne List.mem_cons_self
      have shown : escaped (byte :: more) =
          (if byte = 34 ∨ byte = 92 then [92, byte] else [byte]) ++ escaped more :=
        List.flatMap_cons
      have tail := (Printable.cons_iff.mp printable).2
      rw [shown]
      split
      · rename_i special
        have escapes : escape (asciiChar byte :: ((escaped more).map asciiChar ++ '\x22' :: rest)) =
            .ok (.char (asciiChar byte) 1) := by
          rcases special with rfl | rfl <;> rfl
        refine (double_escape escapes).trans ((inductionHypothesis _ _ _ tail).trans ?_)
        simp [Cursor.advance, show asciiChar 92 = '\\' from rfl]
        omega
      · rename_i plain
        have ordinary : asciiChar byte ≠ '\\' ∧ asciiChar byte ≠ '\x22' := by
          rw [not_or] at plain
          exact ⟨fun same => plain.2 (asciiChar_inj.mp same),
            fun same => plain.1 (asciiChar_inj.mp same)⟩
        refine (double_plain seen ordinary).trans ((inductionHypothesis _ _ _ tail).trans ?_)
        simp [Cursor.advance]
        omega

end Quotation

/-- Words for values that no digits can spell.  They are written bare. -/
def unquotedWords : List Bytes :=
  [".inf", ".Inf", ".INF", "-.inf", "-.Inf", "-.INF", ".nan", ".NaN", ".NAN"].map ascii

/-- What a text comes back as when it has been written. -/
def reading (text : Bytes) : Bytes :=
  if text ∈ unquotedWords then (words.lookup text).getD text else text

theorem reading_eq_self_iff {text : Bytes} : reading text = text ↔ text ∉ unquotedWords := by
  have changed : ∀ word ∈ unquotedWords, (words.lookup word).getD word ≠ word := by decide +kernel
  unfold reading
  split
  · rename_i missed
    simp [changed text missed, missed]
  · rename_i kept
    simp [kept]

/-- Texts that are written bare although they start like a question. -/
def AsksQuestion (text : Bytes) : Prop := needsQuotes text = false ∧ [63, 32] <+: text

instance : DecidablePred AsksQuestion := fun text =>
  inferInstanceAs (Decidable (needsQuotes text = false ∧ [63, 32] <+: text))

/-- What a text is like that is written bare. -/
structure Bare (text : Bytes) : Prop where
  nonempty : text ≠ []
  unreserved : text ∉ reserved
  word : Number.read text = .word
  notDash : text ≠ [45]
  starts : ∀ byte ∈ text.head?, byte ∉ indicators
  noColon : text.getLast? ≠ some 58
  noSpace : text.getLast? ≠ some 32
  unbroken : breaksInside text = false

theorem bare_of_needsQuotes {text : Bytes} (plain : needsQuotes text = false) : Bare text := by
  simp only [needsQuotes, Bool.or_eq_false_iff, bne_eq_false_iff_eq, beq_eq_false_iff_ne] at plain
  obtain ⟨⟨⟨⟨⟨⟨⟨⟨nonempty, unreserved⟩, word⟩, notDash⟩, starts⟩, noColon⟩, noSpace⟩, -⟩,
    unbroken⟩ := plain
  refine ⟨by simpa using nonempty, by simpa using unreserved, word, notDash, ?_, noColon, noSpace,
    unbroken⟩
  intro byte first
  rw [Option.mem_def] at first
  simpa [first] using starts

theorem Bare.text? {text : Bytes} (bare : Bare text) :
    (Scalar.bare text).text? = some (reading text) := by
  have nulls : ∀ word ∈ nullWords, word = [] ∨ word ∈ reserved := by decide +kernel
  have named : ∀ entry ∈ words, entry.1 ∈ reserved ∨ entry.1 ∈ unquotedWords := by decide +kernel
  have spelled : ∀ word ∈ unquotedWords, (words.lookup word).isSome = true := by decide +kernel
  have notNull : text ∉ nullWords := by
    intro null
    rcases nulls text null with empty | taken
    · exact bare.nonempty empty
    · exact bare.unreserved taken
  rw [Scalar.text?, if_neg (by simpa using notNull), reading]
  split
  · rename_i spelling found
    have missed : text ∈ unquotedWords := by
      obtain ⟨entry, member, same⟩ := List.lookup_isSome_iff.mp (Option.isSome_of_eq_some found)
      rw [eq_of_beq same] at bare ⊢
      exact (named entry member).resolve_left bare.unreserved
    simp [missed, found]
  · rename_i unnamed
    have kept : text ∉ unquotedWords := by
      intro missed
      simpa [unnamed] using spelled text missed
    simp [bare.word, kept]

/-- A text without signs inside that would end a bare word. -/
structure Unbroken (text : Bytes) : Prop where
  printable : Printable text
  unbroken : breaksInside text = false
  ends : text.getLast? ≠ some 58

namespace Unbroken

open Lexer

variable {byte : UInt8} {more : Bytes} {rest : List Char}

theorem tail (unbroken : Unbroken (byte :: more)) : Unbroken more := by
  refine ⟨(Printable.cons_iff.mp unbroken.printable).2, ?_, ?_⟩
  · have parts := unbroken.unbroken
    rw [breaksInside, Bool.or_eq_false_iff] at parts
    exact parts.2
  · intro last
    apply unbroken.ends
    rw [List.getLast?_cons, last]
    rfl

/-- A dash or colon that is not the last character has no blank behind it. -/
theorem standsAlone (unbroken : Unbroken (byte :: more)) (sign : byte = 58 ∨ byte = 45)
    (inner : more ≠ []) : standsAlone (more.map asciiChar ++ rest) = false := by
  obtain ⟨next, after, rfl⟩ := List.exists_cons_of_ne_nil inner
  have seen := unbroken.tail.printable.asciiChar_ne List.mem_cons_self
  have noSpace : asciiChar next ≠ ' ' := by
    intro space
    have blank : next = 32 := asciiChar_inj.mp space
    have parts := unbroken.unbroken
    rcases sign with rfl | rfl <;> simp [breaksInside, blank] at parts
  simp [Lexer.standsAlone, isGap, seen, noSpace]

/-- No colon behind blanks ends a name. -/
theorem standsAlone_of_dropWhile {text : Bytes} (unbroken : Unbroken text) {after : List Char}
    (found : (text.map asciiChar ++ '\n' :: rest).dropWhile (· == ' ') = ':' :: after) :
    Lexer.standsAlone after = false := by
  induction text with
  | nil => simp at found
  | cons byte more inductionHypothesis =>
      rw [List.map_cons, List.cons_append, List.dropWhile_cons] at found
      split at found
      · exact inductionHypothesis unbroken.tail found
      · obtain ⟨same, rfl⟩ := List.cons.inj found
        have colon : byte = 58 := asciiChar_inj.mp same
        apply unbroken.standsAlone (.inl colon)
        rintro rfl
        exact unbroken.ends (by simp [colon])

theorem mergeName {text : Bytes} (unbroken : Unbroken text) (lexer : Lexer) :
    mergeName lexer (text.map asciiChar ++ '\n' :: rest) = .ok none := by
  unfold Lexer.mergeName
  split
  · rename_i next after found
    rw [if_neg]
    rw [Bool.and_eq_true]
    rintro ⟨repeated, blank⟩
    cases text with
    | nil => simp [repeats] at repeated
    | cons byte more =>
        have apart := unbroken.tail.standsAlone_of_dropWhile found
        simp only [Lexer.standsAlone, List.head?_cons, Option.map_some, Option.getD_some, isGap,
          Bool.or_eq_false_iff] at apart
        simp [apart] at blank
  · rfl

theorem plainAt (unbroken : Unbroken (byte :: more)) :
    PlainAt true (asciiChar byte) (more.map asciiChar ++ '\n' :: rest) where
  visible := by
    refine ⟨?_, unbroken.printable.asciiChar_ne List.mem_cons_self⟩
    intro sharp
    have hash : byte = 35 := asciiChar_inj.mp sharp
    have parts := unbroken.unbroken
    simp [breaksInside, hash] at parts
  colon := by
    intro same
    have colon : byte = 58 := asciiChar_inj.mp same
    apply unbroken.standsAlone (.inl colon)
    rintro rfl
    exact unbroken.ends (by simp [colon])
  merge := fun _ => unbroken.tail.mergeName
  first := by simp

theorem plainWord {text : Bytes} (unbroken : Unbroken text) :
    PlainWord true (text.map asciiChar) ('\n' :: rest) := by
  induction text with
  | nil => trivial
  | cons byte more inductionHypothesis =>
      exact ⟨unbroken.plainAt, inductionHypothesis unbroken.tail⟩

end Unbroken

theorem Bare.plainWord {text : Bytes} (rest : List Char) (bare : Bare text)
    (printable : Printable text) (asks : ¬ [63, 32] <+: text) :
    Lexer.PlainWord false (text.map asciiChar) ('\n' :: rest) := by
  have unbroken : Unbroken text := ⟨printable, bare.unbroken, bare.noColon⟩
  obtain ⟨byte, more, rfl⟩ := List.exists_cons_of_ne_nil bare.nonempty
  refine ⟨{ unbroken.plainAt with first := fun _ => ⟨?_, ?_, ?_⟩ }, unbroken.tail.plainWord⟩
  · intro sign
    obtain ⟨other, member, same⟩ := List.mem_map.mp sign
    rw [asciiChar_inj] at same
    exact bare.starts byte (by simp) (same ▸ member)
  · intro same
    have dash : byte = 45 := asciiChar_inj.mp same
    apply unbroken.standsAlone (.inr dash)
    rintro rfl
    exact bare.notDash (by rw [dash])
  · intro same
    have question : byte = 63 := asciiChar_inj.mp same
    cases more with
    | nil => rfl
    | cons next after =>
        have noSpace : asciiChar next ≠ ' ' := by
          intro space
          have blank : next = 32 := asciiChar_inj.mp space
          exact asks (by simp [question, blank])
        simp [isGap, noSpace, (unbroken.tail.printable.asciiChar_ne List.mem_cons_self).1]

/-- A token at a place that a text has been written as. -/
inductive IsValue (text : Bytes) (line : Nat) (column : Int) : Token → Prop where
  | word {spelling : List Char} (known : (Scalar.bare text).text? = some (reading text)) :
      IsValue text line column
        { mark := .word, value := text.map asciiChar, spelling, line, column }
  | quoted {spelling : List Char} (known : reading text = text) :
      IsValue text line column
        { mark := .quoted, value := text.map asciiChar, spelling, line, column }

namespace Lexer

variable {text : Bytes} {line indent : Nat} {column delimiter : Int} {level : Level}
  {previous : Char} {tokens : List Token} {rest : List Char}

variable (line indent column delimiter level previous tokens rest) in
theorem step_quoted (lead : List Char) (printable : Printable text) :
    (outside (.midway line column indent delimiter) level previous { spelling := lead }
        tokens).step '\x22' ((escaped text).map asciiChar ++ '\x22' :: rest) =
      .ok (outside (.midway line (column + ((escaped text).length + 2)) indent delimiter) .inside
        '\x22' {}
        ({ mark := .quoted
           value := text.map asciiChar
           spelling :=
            ('\x22' :: (((escaped text).map asciiChar).reverse ++ '\x22' :: lead)).reverse
           line
           column } :: tokens), rest) := by
  rw [step_midway]
  simp only [freeChar, meaning, doubleQuote]
  rw [if_neg (by simp [outside, Draft.hasText]), Quotation.double_escaped _ _ _ printable]
  rfl

variable (line indent delimiter level previous tokens rest) in
theorem reads_value (apart : 1 < column) (printable : Printable text)
    (asks : ¬ AsksQuestion text) :
    ∃ draft start found,
      Owing (fun made => ∃ value, IsValue text line column value ∧ made = value :: tokens)
        draft start found ∧
      Reads
        (outside (.midway line column indent delimiter) level previous { spelling := [' '] } tokens)
        ((written text).map asciiChar ++ '\n' :: rest)
        (fresh (line + 1) 0 delimiter '\n' draft start found) rest := by
  unfold written
  split
  · rename_i quotes
    have known : reading text = text := by
      have bare : ∀ word ∈ unquotedWords, needsQuotes word = false := by decide +kernel
      rw [reading_eq_self_iff]
      intro missed
      simp [bare text missed] at quotes
    have quoted := step_quoted line indent column delimiter level previous tokens ('\n' :: rest)
      [' '] printable
    have reads := Reads.step quoted (by simp; omega) (.single step_break_empty)
    rw [List.cons_append, List.map_cons, List.map_append, List.cons_append, List.append_assoc]
    exact ⟨_, _, _, .settled _ (by simp [Lead]) ⟨_, .quoted known, rfl⟩, reads⟩
  · rename_i plain
    rw [Bool.not_eq_true] at plain
    have bare := bare_of_needsQuotes plain
    have word := bare.plainWord rest printable fun front => asks ⟨plain, front⟩
    obtain ⟨level', previous', reads⟩ := reads_word line indent delimiter level previous tokens
      [] [' '] apart word
    have ends : ∀ c ∈ (text.map asciiChar).getLast?, isGap c = false := by
      intro c last
      rw [List.getLast?_map, Option.mem_def, Option.map_eq_some_iff] at last
      obtain ⟨byte, final, rfl⟩ := last
      have seen := printable.asciiChar_ne (List.mem_of_getLast? final)
      have noSpace : asciiChar byte ≠ ' ' := by
        intro space
        exact bare.noSpace (final.trans (congrArg some (asciiChar_inj.mp space)))
      simp [isGap, seen, noSpace]
    obtain ⟨draft, start, found, owing, breaks⟩ := reads_break_word line indent
      (column + (text.map asciiChar).length) delimiter level' previous' tokens rest [' ']
      (fun made => ∃ value, IsValue text line column value ∧ made = value :: tokens)
      (by simpa using bare.nonempty) ends (by
        intro spelling
        rw [Int.add_sub_cancel]
        exact ⟨_, .word bare.text?, rfl⟩)
    exact ⟨draft, start, found, owing, reads.trans breaks⟩

end Lexer

end ImportSplice.Yaml
