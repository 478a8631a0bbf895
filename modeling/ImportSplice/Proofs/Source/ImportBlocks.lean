import ImportSplice.Proofs.Settings.ModuleNames
import ImportSplice.Proofs.Source.OutputLines
import ImportSplice.Proofs.Stream.Delivery

/-!
What a block of imports says.  An accepted name holds no newline, so the block falls into an
empty line and one line for each module, and the modules can be read off these lines.  Two
lists of accepted modules have the same block only if they are the same, and an output into
which the block is put gets the lines of the block and no others.
-/

namespace ImportSplice

variable {modules : List Bytes}

/-- The modules that a block imports: what follows the keywords on each line between the empty
one at the start and what is left behind the last newline. -/
def importedBy (block : Bytes) : List Bytes :=
  (Bytes.splitOn Bytes.newline block).tail.dropLast.map
    (List.drop (ascii "import qualified ").length)

theorem importBlock_eq (nonempty : modules ≠ []) :
    importBlock modules = Bytes.newline :: modules.flatMap importLine := by
  cases modules with
  | nil => contradiction
  | cons name rest => rfl

theorem splitOn_imports (unbroken : ∀ name ∈ modules, Bytes.newline ∉ name) :
    Bytes.splitOn Bytes.newline (modules.flatMap importLine) =
      modules.map (ascii "import qualified " ++ ·) ++ [[]] := by
  induction modules with
  | nil => rfl
  | cons name rest inductionHypothesis =>
      rw [List.forall_mem_cons] at unbroken
      have whole : Bytes.newline ∉ ascii "import qualified " ++ name := by
        rw [List.mem_append, not_or]
        exact ⟨by decide, unbroken.1⟩
      have cut : (name :: rest).flatMap importLine =
          (ascii "import qualified " ++ name) ++ Bytes.newline :: rest.flatMap importLine := by
        simp [importLine]
      rw [cut, List.map_cons, List.cons_append, ← inductionHypothesis unbroken.2]
      exact List.splitOn_append_cons_self_of_not_mem whole _

theorem splitOn_importBlock (nonempty : modules ≠ [])
    (unbroken : ∀ name ∈ modules, Bytes.newline ∉ name) :
    Bytes.splitOn Bytes.newline (importBlock modules) =
      [] :: modules.map (ascii "import qualified " ++ ·) ++ [[]] := by
  rw [importBlock_eq nonempty, List.cons_append, ← splitOn_imports unbroken]
  exact List.splitOn_append_cons_self_of_not_mem List.not_mem_nil _

theorem importedBy_importBlock (unbroken : ∀ name ∈ modules, Bytes.newline ∉ name) :
    importedBy (importBlock modules) = modules := by
  by_cases empty : modules = []
  · rw [empty]
    rfl
  · rw [importedBy, splitOn_importBlock empty unbroken, List.cons_append, List.tail_cons,
      List.dropLast_concat, List.map_map]
    simp [Function.comp_def]

/-- The lines that a block of these modules has. -/
def blockLines (modules : List Bytes) : List Bytes :=
  if modules = [] then [] else [Bytes.newline] :: modules.map importLine

theorem lines_block (unbroken : ∀ name ∈ modules, Bytes.newline ∉ name) :
    lines (importBlock modules) = blockLines modules := by
  rw [blockLines]
  split
  · rename_i empty
    rw [empty]
    rfl
  · rename_i nonempty
    exact lines_importBlock nonempty unbroken

/-- The block of an accepted configuration tells its modules, whatever bytes they are made of:
it is empty if there is none, and otherwise has an empty line and a line for each of them.  An
output has these lines before each marker line, and its other lines do not depend on them. -/
theorem importBlock_tells_modules {config : Config} (valid : config.validate = .ok ()) :
    (importBlock config.imports = [] ↔ config.imports = []) ∧
    (config.imports ≠ [] → Bytes.splitOn Bytes.newline (importBlock config.imports) =
      [] :: config.imports.map (ascii "import qualified " ++ ·) ++ [[]]) ∧
    importedBy (importBlock config.imports) = config.imports ∧
    (∀ other : Config, other.validate = .ok () →
      importBlock other.imports = importBlock config.imports → other.imports = config.imports) ∧
    ∀ (injector : Injector) (path : Bytes) (source : Source),
      injector.block = importBlock config.imports → source.ending = .finished →
      lines (injector.inject source {} path).sink.accepted.toList =
        lines (Directive.render 1 path) ++
          ((lines source.bytes).zipIdx 1).flatMap fun (line, number) =>
            (if injector.isMarker line then
              blockLines config.imports ++ lines (Directive.render number path)
            else []) ++ [line] := by
  have unbroken := Config.unbroken_of_validate valid
  refine ⟨?_, ?_, importedBy_importBlock unbroken, ?_, ?_⟩
  · constructor
    · intro none
      by_contra some
      rw [importBlock_eq some] at none
      contradiction
    · intro empty
      rw [empty]
      rfl
  · intro nonempty
    exact splitOn_importBlock nonempty unbroken
  · intro other accepted same
    rw [← importedBy_importBlock (Config.unbroken_of_validate accepted), same,
      importedBy_importBlock unbroken]
  · intro injector path source rendered finished
    have ended : Terminated injector.block := by
      rw [rendered]
      exact terminated_importBlock config.imports
    have received : (injector.inject source {} path).sink.accepted.toList =
        injector.render path source.bytes := by
      rw [injector.inject_of_unlimited source {} path finished rfl]
      simp [Sink.after]
    rw [received, Injector.render, lines_append (Directive.terminated_render 1 path),
      Injector.lines_rendered ended path (lineCut_lines source.bytes)]
    simp only [Injector.lines_insertion_eq ended, rendered, lines_block unbroken]

/-- Names of bytes that start a character and do not finish it stay on their lines, while the
path of the source has a newline. -/
theorem importBlock_tells_broken_names :
    let config : Config := { imports := [[0xC2], ascii "A", [0xE2, 0x80]] }
    let injector : Injector := { block := importBlock config.imports }
    let source : Source :=
      { reads := [], final := ascii "import qualified Prelude", ending := .finished }
    config.validate = .ok () ∧ config.imports ≠ [] ∧
      Bytes.splitOn Bytes.newline (importBlock config.imports) =
        [[], ascii "import qualified " ++ [0xC2], ascii "import qualified A",
          ascii "import qualified " ++ [0xE2, 0x80], []] ∧
      source.ending = .finished ∧
      lines (injector.inject source {} (ascii "A\n.hs")).sink.accepted.toList =
        [ascii "\x7b-# LINE 1 \"A\n", ascii ".hs\" #-\x7d\n",
          ascii "\n", ascii "import qualified " ++ [0xC2, 10], ascii "import qualified A\n",
          ascii "import qualified " ++ [0xE2, 0x80, 10],
          ascii "\x7b-# LINE 1 \"A\n", ascii ".hs\" #-\x7d\n",
          ascii "import qualified Prelude"] := by
  intro config injector source
  have valid : config.validate = .ok () := by decide +kernel
  obtain ⟨-, split, -, -, put⟩ := importBlock_tells_modules valid
  exact ⟨valid, by simp [config], (split (by simp [config])).trans (by decide), rfl,
    (put injector (ascii "A\n.hs") source rfl rfl).trans (by decide +kernel)⟩

end ImportSplice
