import ImportSplice.Command.Run
import ImportSplice.Proofs.Settings.ArgumentReading

/-!
The first positional argument names the original source and is not used.  It is counted and
nothing else, so a run with another one in its place is the same run: whether it succeeds or
fails, with the same texts and the same files.
-/

namespace ImportSplice.Command

theorem execute_ignores_first (system : FileSystem) (environment : Environment) (flags : Flags)
    (first second : Bytes) (others : List Bytes) (medium : Injector.Medium) :
    execute system environment flags (first :: others) medium =
      execute system environment flags (second :: others) medium := by
  unfold execute
  match others with
  | [] | [_] | [_, _] | _ :: _ :: _ :: _ => rfl

/-- Arguments that are read as flags alone stand before two texts that do not start with a
dash, and any arguments behind them: it makes no difference which of the two is given. -/
theorem run_ignores_first_positional (system : FileSystem) (environment : Environment)
    (medium : Injector.Medium) {reached : Flags} {front : List Bytes} (after : List Bytes)
    {first second : Bytes} (leading : Flags.read front = .ok (reached, []))
    (firstPlain : first.head? ≠ some 45) (secondPlain : second.head? ≠ some 45) :
    run system environment (front ++ first :: after) medium =
      run system environment (front ++ second :: after) medium := by
  obtain ⟨others, read⟩ := Flags.read_first_positional leading after
  rw [run, run, read first firstPlain, read second secondPlain]
  cases others with
  | error defect => rfl
  | ok result => exact execute_ignores_first system environment result.1 first second result.2 medium

/-- A flag with its value stands before the text, and another flag between the two paths. -/
theorem run_ignores_first_positional_among_flags :
    let system : FileSystem :=
      { entries := [([], .directory 0o755), ([ascii "in"], .file 0 (ascii "x = 1\n") 0o644)] }
    let front := [ascii "-m", ascii "main"]
    let after := [ascii "/in", ascii "-v", ascii "/out"]
    Flags.read front = .ok ({ marker := some (ascii "main") }, []) ∧
      (ascii "A.hs").head? ≠ some 45 ∧ ([] : Bytes).head? ≠ some 45 ∧
      run system [] (front ++ ascii "A.hs" :: after) = run system [] (front ++ [] :: after) ∧
      (run system [] (front ++ ascii "A.hs" :: after)).exit = .success := by
  intro system front after
  have leading : Flags.read front = .ok ({ marker := some (ascii "main") }, []) := rfl
  exact ⟨leading, by decide, by decide,
    run_ignores_first_positional system [] {} after leading (by decide) (by decide),
    by decide +kernel⟩

end ImportSplice.Command
