import ImportSplice.Settings.Record

/-!
Records without quotes.  A field that holds no comma, no quote and no line break is read byte
by byte up to the comma or the end behind it, so the record of such fields joined by commas is
these fields.
-/

namespace ImportSplice.Record

/-- Fields that are written as they are. -/
structure Bare (field : Bytes) : Prop where
  nonempty : field ≠ []
  unbroken : Bytes.newline ∉ field
  noReturn : Bytes.carriageReturn ∉ field
  unquoted : Bytes.quote ∉ field
  undivided : Bytes.comma ∉ field

variable {fields names : List Bytes} {field name text : Bytes}

theorem plainLines_eq_self (noReturn : Bytes.carriageReturn ∉ text) : plainLines text = text := by
  fun_induction plainLines text with
  | case1 rest => simp [Bytes.carriageReturn] at noReturn
  | case2 => simp [Bytes.carriageReturn] at noReturn
  | case3 byte rest _ _ inductionHypothesis =>
      rw [inductionHypothesis fun member => noReturn (List.mem_cons_of_mem _ member)]
  | case4 => rfl

theorem readFields_byte {byte : UInt8} (place : Place) (fields : List Bytes) (field rest : Bytes)
    (broken : byte ≠ Bytes.newline) (quoted : byte ≠ Bytes.quote) (divided : byte ≠ Bytes.comma) :
    readFields place fields field .plain (byte :: rest) =
        readFields place.advance fields (byte :: field) .plain rest ∧
      readFields place fields [] .start (byte :: rest) =
        readFields place.advance fields [byte] .plain rest := by
  constructor
  all_goals
    rw [readFields]
    all_goals assumption

/-- Bytes that mean nothing to the reader are put before the field, which is kept back to
front. -/
theorem readFields_run (place : Place) (fields : List Bytes) (field rest : Bytes)
    (unbroken : Bytes.newline ∉ text) (unquoted : Bytes.quote ∉ text)
    (undivided : Bytes.comma ∉ text) :
    ∃ reached, readFields place fields field .plain (text ++ rest) =
      readFields reached fields (text.reverse ++ field) .plain rest := by
  induction text generalizing place field with
  | nil => exact ⟨place, rfl⟩
  | cons byte more inductionHypothesis =>
      rw [List.mem_cons, not_or] at unbroken unquoted undivided
      obtain ⟨reached, read⟩ := inductionHypothesis place.advance (byte :: field) unbroken.2
        unquoted.2 undivided.2
      refine ⟨reached, ?_⟩
      rw [List.cons_append, (readFields_byte place fields field _ (Ne.symm unbroken.1)
        (Ne.symm unquoted.1) (Ne.symm undivided.1)).1, read, List.reverse_cons, List.append_assoc]
      rfl

theorem readFields_bare (place : Place) (fields : List Bytes) (bare : Bare field) (rest : Bytes) :
    ∃ reached, readFields place fields [] .start (field ++ rest) =
      readFields reached fields field.reverse .plain rest := by
  obtain ⟨nonempty, unbroken, -, unquoted, undivided⟩ := bare
  obtain ⟨byte, more, rfl⟩ := List.exists_cons_of_ne_nil nonempty
  rw [List.mem_cons, not_or] at unbroken unquoted undivided
  obtain ⟨reached, read⟩ := readFields_run place.advance fields [byte] rest unbroken.2 unquoted.2
    undivided.2
  refine ⟨reached, ?_⟩
  rw [List.cons_append, (readFields_byte place fields [] _ (Ne.symm unbroken.1)
    (Ne.symm unquoted.1) (Ne.symm undivided.1)).2, read, List.reverse_cons]

theorem readFields_joined (place : Place) (fields : List Bytes) (nonempty : names ≠ [])
    (bare : ∀ name ∈ names, Bare name) :
    readFields place fields [] .start (Bytes.joinWith [Bytes.comma] names) =
      .ok (fields.reverse ++ names) := by
  induction names generalizing place fields with
  | nil => contradiction
  | cons name rest inductionHypothesis =>
      rw [List.forall_mem_cons] at bare
      cases rest with
      | nil =>
          obtain ⟨reached, read⟩ := readFields_bare place fields bare.1 []
          rw [List.append_nil] at read
          rw [Bytes.joinWith_singleton, read, readFields, List.reverse_cons, List.reverse_reverse]
      | cons next more =>
          obtain ⟨reached, read⟩ := readFields_bare place fields bare.1
            (Bytes.comma :: Bytes.joinWith [Bytes.comma] (next :: more))
          have later := inductionHypothesis reached.advance (name :: fields) (by simp) bare.2
          rw [Bytes.joinWith_cons_cons, read]
          -- The comma ends the field, and the next one starts with nothing read.
          change readFields reached.advance (name.reverse.reverse :: fields) [] .start _ = _
          rw [List.reverse_reverse, later, List.reverse_cons, List.append_assoc]
          rfl

theorem readFrom_line {byte : UInt8} (line : Nat) (broken : byte ≠ Bytes.newline) (rest : Bytes) :
    readFrom line (byte :: rest) =
      readFields { start := line, line, column := 1 } [] [] .start (byte :: rest) := by
  rw [readFrom]
  · simp
  · intro more same
    exact broken (List.cons.inj same).1

/-- Fields that are written as they are and joined by commas are read back. -/
theorem read_joined (nonempty : names ≠ []) (bare : ∀ name ∈ names, Bare name) :
    read (Bytes.joinWith [Bytes.comma] names) = .ok names := by
  have noReturn : Bytes.carriageReturn ∉ Bytes.joinWith [Bytes.comma] names :=
    Bytes.not_mem_joinWith (by decide) fun name member => (bare name member).noReturn
  obtain ⟨name, rest, rfl⟩ := List.exists_cons_of_ne_nil nonempty
  have first := bare name (by simp)
  obtain ⟨byte, more, rfl⟩ := List.exists_cons_of_ne_nil first.nonempty
  have broken : byte ≠ Bytes.newline := by
    intro same
    exact first.unbroken (by simp [same])
  have start : Bytes.joinWith [Bytes.comma] ((byte :: more) :: rest) =
      byte :: Bytes.joinWith [Bytes.comma] (more :: rest) := List.intercalate_cons_cons_left
  rw [read, plainLines_eq_self noReturn, start, readFrom_line 1 broken, ← start,
    readFields_joined _ [] nonempty bare]
  rfl

end ImportSplice.Record
