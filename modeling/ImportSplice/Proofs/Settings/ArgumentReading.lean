import ImportSplice.Proofs.Success
import ImportSplice.Settings.Flags

/-!
How a command line is read, argument by argument.  What an argument does depends on the
flags read so far and on nothing behind it; at most it takes the next argument as a value.
So arguments that are read as flags alone can be read before any others, and the argument
behind them is the first positional one.
-/

namespace ImportSplice.Flags

/-- What one argument does to the reading of a command line. -/
inductive Effect where
  | positional
  | terminator
  | refused (defect : FlagDefect)
  | settled (flags : Flags)
  /-- The next argument is a value, and a defect is found if there is none. -/
  | awaits (flags : Flags) (flag : Flag) (missing : FlagDefect)

def effect (flags : Flags) (argument : Bytes) : Effect :=
  match Argument.ofText argument with
  | .positional => .positional
  | .terminator => .terminator
  | .malformed => .refused (.badSpelling argument)
  | .long name value =>
      match Flag.ofName? name with
      | none => .refused (.unknownName name)
      | some flag =>
          match value with
          | some text =>
              match flags.set flag text with
              | .ok next => .settled next
              | .error defect => .refused defect
          | none =>
              if flag.isSwitch then .settled (flags.turn flag true)
              else .awaits flags flag (.missingValue argument)
  | .letters group =>
      match flags.readGroup group with
      | .error defect => .refused defect
      | .ok (.done next) => .settled next
      | .ok (.awaiting reached flag letter) => .awaits reached flag (.missingLetterValue letter)

theorem readOnto_cons (flags : Flags) (argument : Bytes) (rest : List Bytes) :
    flags.readOnto (argument :: rest) =
      match flags.effect argument with
      | .positional => (flags.readOnto rest).map (before argument)
      | .terminator => .ok (flags, rest)
      | .refused defect => .error defect
      | .settled next => next.readOnto rest
      | .awaits reached flag missing =>
          match rest with
          | [] => .error missing
          | text :: more =>
              match reached.set flag text with
              | .ok next => next.readOnto more
              | .error defect => .error defect := by
  rw [readOnto, effect]
  cases Argument.ofText argument with
  | positional | terminator | malformed => rfl
  | long name value =>
      dsimp only
      cases Flag.ofName? name with
      | none => rfl
      | some flag =>
          cases value with
          | some text =>
              dsimp only
              cases flags.set flag text <;> rfl
          | none =>
              dsimp only
              cases flag.isSwitch <;> rfl
  | letters group =>
      dsimp only
      cases flags.readGroup group with
      | error defect => rfl
      | ok read => cases read <;> rfl

theorem effect_positional (flags : Flags) {argument : Bytes} (plain : argument.head? ≠ some 45) :
    flags.effect argument = .positional := by
  have shape : Argument.ofText argument = .positional := by
    cases argument with
    | nil => rfl
    | cons byte rest =>
        have other : byte ≠ 45 := by simpa using plain
        simp [Argument.ofText, other]
  rw [effect, shape]

/-- Arguments that are read as flags alone are read before any others, unless they end with
the terminator; then all the others are positional. -/
theorem readOnto_leading {flags reached : Flags} {front : List Bytes}
    (leading : flags.readOnto front = .ok (reached, [])) :
    (∀ rest, flags.readOnto (front ++ rest) = reached.readOnto rest) ∨
      ∀ rest, flags.readOnto (front ++ rest) = .ok (reached, rest) := by
  -- An argument may take the next one with it, so the induction is on the number of arguments.
  induction size : front.length using Nat.strongRecOn generalizing flags front with
  | ind count inductionHypothesis =>
      cases front with
      | nil =>
          cases leading
          exact .inl fun _ => rfl
      | cons argument others =>
          rw [readOnto_cons] at leading
          rw [List.length_cons] at size
          simp only [List.cons_append, readOnto_cons]
          cases done : flags.effect argument with
          | positional =>
              rw [done] at leading
              obtain ⟨⟨_, _⟩, _, same⟩ := map_ok_iff.mp leading
              simp [before] at same
          | terminator =>
              rw [done] at leading
              cases leading
              exact .inr fun _ => rfl
          | refused defect =>
              rw [done] at leading
              contradiction
          | settled next =>
              rw [done] at leading
              exact inductionHypothesis others.length (by omega) leading rfl
          | awaits awaiting flag missing =>
              rw [done] at leading
              cases others with
              | nil => contradiction
              | cons text more =>
                  rw [List.length_cons] at size
                  dsimp only [List.cons_append] at leading ⊢
                  cases taken : awaiting.set flag text with
                  | error defect =>
                      rw [taken] at leading
                      contradiction
                  | ok next =>
                      rw [taken] at leading
                      exact inductionHypothesis more.length (by omega) leading rfl

/-- Behind arguments that are read as flags alone, a text that does not start with a dash
becomes the first positional argument, and no other part of the reading depends on it. -/
theorem read_first_positional {reached : Flags} {front : List Bytes}
    (leading : read front = .ok (reached, [])) (after : List Bytes) :
    ∃ others : Except FlagDefect (Flags × List Bytes), ∀ argument : Bytes,
      argument.head? ≠ some 45 →
      read (front ++ argument :: after) = others.map (before argument) := by
  rcases readOnto_leading leading with continued | closed
  · refine ⟨reached.readOnto after, ?_⟩
    intro argument plain
    rw [read, continued, readOnto_cons, effect_positional reached plain]
  · refine ⟨.ok (reached, after), ?_⟩
    intro argument _
    rw [read, closed]
    rfl

end ImportSplice.Flags
