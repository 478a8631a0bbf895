import ImportSplice.Proofs.Success
import ImportSplice.Proofs.Yaml.LineReading

/-!
Tokens that have been found stay: whatever a character means, reading it only adds tokens
to those before.
-/

namespace ImportSplice.Yaml

namespace Lexer

variable {lexer next : Lexer} {c : Char} {rest after : List Char} {mark : Mark}

theorem tokens_cut (lexer : Lexer) : lexer.cut.2.tokens = lexer.tokens := by
  unfold cut
  dsimp only
  split <;> rfl

theorem keeps_flush : lexer.tokens <:+ lexer.flush.tokens := by
  rw [← tokens_cut lexer]
  unfold flush
  split
  · rename_i made
    rw [made]
    exact List.suffix_cons _ _
  · rename_i made
    simp [made]

theorem suffix_flush {kept : List Token} (suffix : kept <:+ lexer.tokens) :
    kept <:+ lexer.flush.tokens :=
  suffix.trans keeps_flush

/-- A reader that takes no token away. -/
def Keeping (reader : Reader) : Prop :=
  ∀ lexer rest next after, reader lexer rest = .ok (some (next, after)) →
    lexer.tokens <:+ next.tokens

namespace Keeping

variable {condition : Lexer → List Char → Prop}
  [∀ lexer rest, Decidable (condition lexer rest)]

theorem of_else {read : Lexer → List Char → Lexer × List Char}
    (keeps : ∀ lexer rest, lexer.tokens <:+ (read lexer rest).1.tokens) :
    Keeping fun lexer rest =>
      if condition lexer rest then .ok none else .ok (some (read lexer rest)) := by
  intro lexer rest next after made
  dsimp only at made
  split at made
  · cases made
  · rw [Except.ok.injEq, Option.some.injEq] at made
    simpa [made] using keeps lexer rest

theorem of_then {read : Lexer → List Char → Lexer × List Char}
    (keeps : ∀ lexer rest, lexer.tokens <:+ (read lexer rest).1.tokens) :
    Keeping fun lexer rest =>
      if condition lexer rest then .ok (some (read lexer rest)) else .ok none := by
  intro lexer rest next after made
  dsimp only at made
  split at made
  · rw [Except.ok.injEq, Option.some.injEq] at made
    simpa [made] using keeps lexer rest
  · cases made

end Keeping

theorem keeping_dash : Keeping dash := by
  intro lexer rest next after read
  unfold dash documentStart at read
  dsimp only at read
  split at read
  · rename_i started
    split at started <;> cases started
    cases read
    exact keeps_flush.trans (List.suffix_cons _ _)
  · split at read
    · split at read <;> cases read
      exact List.suffix_refl _
    · split at read <;> cases read
      exact List.suffix_cons _ _

theorem keeping_mergeName : Keeping mergeName := by
  intro lexer rest next after read
  unfold mergeName at read
  split at read
  · split at read <;> cases read
    exact List.suffix_cons _ _
  · cases read

theorem keeping_colon : Keeping colon := by
  intro lexer rest next after read
  unfold colon at read
  split at read
  · cases read
  split at read
  · cases read
  dsimp only at read
  cases read
  rw [← tokens_cut lexer]
  refine List.IsSuffix.trans ?_ (List.suffix_cons _ _)
  split
  · rename_i made
    rw [made]
    exact List.suffix_cons _ _
  · rename_i made
    rw [made]
    dsimp only
    split
    · split <;> exact List.suffix_refl _
    · exact List.suffix_refl _

theorem keeping_blockHeader {kind : BlockKind} : Keeping (blockHeader kind) := by
  intro lexer rest next after read
  unfold blockHeader at read
  split at read
  · cases read
  dsimp only at read
  split at read <;> cases read
  split <;> exact List.suffix_cons _ _

theorem keeping_comment : Keeping comment := by
  intro lexer rest next after read
  unfold comment at read
  split at read <;> cases read
  exact keeps_flush.trans (List.suffix_cons _ _)

theorem keeping_reserved : Keeping reserved := by
  intro lexer rest next after read
  unfold reserved at read
  split at read <;> cases read

theorem keeping_quotation {quoted : Except Defect Quotation}
    (read : lexer.quotation quoted = .ok (some (next, after))) :
    lexer.tokens <:+ next.tokens := by
  unfold quotation at read
  cases quoted <;> cases read
  exact List.suffix_cons _ _

theorem keeping_singleQuote : Keeping singleQuote := by
  intro lexer rest next after read
  unfold singleQuote at read
  split at read
  · cases read
  · exact keeping_quotation read

theorem keeping_doubleQuote : Keeping doubleQuote := by
  intro lexer rest next after read
  unfold doubleQuote at read
  split at read
  · cases read
  · exact keeping_quotation read

theorem keeping_space : Keeping space := by
  intro lexer rest next after read
  unfold space at read
  split at read
  · cases read
    exact List.suffix_refl _
  split at read
  · cases read
    exact keeps_flush
  split at read <;> cases read
  exact keeps_flush

theorem keeping_tab : Keeping tab := by
  intro lexer rest next after read
  unfold tab at read
  dsimp only at read
  split at read
  · cases read
    exact List.suffix_refl _
  split at read <;> cases read

theorem keeping_lineBreak : Keeping (lineBreak c) := by
  intro lexer rest next after read
  unfold lineBreak at read
  dsimp only at read
  split at read <;> cases read
  all_goals
    dsimp only
    split
    · exact suffix_flush (List.suffix_refl _)
    · exact List.suffix_refl _

theorem keeping_meaning (c : Char) : Keeping (meaning c) := by
  have signed : ∀ {lexer : Lexer} {token : Token}, lexer.tokens <:+ token :: lexer.flush.tokens :=
    keeps_flush.trans (List.suffix_cons _ _)
  unfold meaning
  split
  · exact .of_else fun _ _ => signed
  · exact .of_else fun _ _ => signed
  · exact .of_else fun _ _ => signed
  · exact .of_else fun _ _ => signed
  · exact .of_else fun _ _ => signed
  · exact .of_then fun _ _ => signed
  · exact keeping_mergeName
  · exact keeping_dash
  · exact keeping_colon
  · exact keeping_blockHeader
  · exact keeping_blockHeader
  · exact keeping_reserved
  · exact keeping_reserved
  · exact keeping_reserved
  · exact .of_else fun _ _ => signed
  · exact .of_then fun _ _ => List.suffix_cons _ _
  · exact .of_else fun _ _ => List.suffix_cons _ _
  · exact .of_else fun _ _ => List.suffix_cons _ _
  · exact keeping_comment
  · exact keeping_singleQuote
  · exact keeping_doubleQuote
  · exact keeping_lineBreak
  · exact keeping_lineBreak
  · exact keeping_space
  · exact keeping_tab
  · intro lexer rest next after read
    cases read

theorem keeps_freeChar (read : lexer.freeChar c rest = .ok (next, after)) :
    lexer.tokens <:+ next.tokens := by
  unfold freeChar at read
  split at read
  · cases read
  · rename_i made
    cases read
    exact keeping_meaning c _ _ _ _ made
  · cases read
    exact List.suffix_refl _

theorem keeps_textOfBlock {block : Block} (read : lexer.textOfBlock block c = .ok next) :
    lexer.tokens <:+ next.tokens := by
  unfold textOfBlock at read
  dsimp only at read
  split at read
  · cases read
  split at read <;> cases read
  dsimp only [advance]
  split <;> exact List.suffix_refl _

theorem keeps_lastOfBlock {block : Block} (read : lexer.lastOfBlock block c = .ok next) :
    lexer.tokens <:+ next.tokens := by
  unfold lastOfBlock at read
  dsimp only at read
  generalize (if lexer.cursor.atLineStart && c == ' ' then _ else _) = grown at read
  split at read <;> cases read
  exact List.suffix_cons _ _

theorem keeps_breakOfBlock {block : Block} {kept : List Token} (suffix : kept <:+ lexer.tokens) :
    kept <:+ (lexer.breakOfBlock block rest).tokens := by
  unfold breakOfBlock
  dsimp only
  split
  · exact suffix.trans (List.suffix_cons _ _)
  · exact suffix

theorem keeps_leaveBlock (read : lexer.leaveBlock = .ok next) : lexer.tokens <:+ next.tokens := by
  unfold leaveBlock at read
  split at read
  · cases read
    exact List.suffix_refl _
  split at read
  · cases read
  split at read <;> cases read
  · exact List.suffix_refl _
  · exact List.suffix_cons _ _

theorem keeps_blockChar {block : Block} (read : lexer.blockChar block c rest = .ok (next, after)) :
    lexer.tokens <:+ next.tokens := by
  unfold blockChar at read
  dsimp only at read
  rw [map_ok_iff] at read
  obtain ⟨found, made, same⟩ := read
  cases same
  -- A line break is spelled in one of three ways, and none of them touches the tokens.
  split at made
  all_goals
    dsimp only at made
    split at made
    · exact (keeps_lastOfBlock made :)
    split at made
    · cases made
      exact keeps_breakOfBlock (List.suffix_refl _)
    split at made
    · cases made
      exact List.suffix_refl _
    split at made
    · split at made
      · cases made
      · exact (keeps_textOfBlock made :)
    split at made
    · cases made
      exact List.suffix_refl _
    · exact (keeps_textOfBlock made :)

theorem keeps_step (stepped : lexer.step c rest = .ok (next, after)) :
    lexer.tokens <:+ next.tokens := by
  have judged : (lexer.judge c).tokens = lexer.tokens := by
    unfold judge
    split
    · rfl
    split
    · rfl
    split <;> rfl
  unfold step at stepped
  dsimp only at stepped
  generalize lexer.judge c = current at judged stepped
  rw [← judged]
  have flushed : current.tokens <:+
      (if current.level == .shallower then current.flush else current).tokens := by
    split
    · exact keeps_flush
    · exact List.suffix_refl _
  generalize (if current.level == .shallower then current.flush else current) = cleared
    at stepped flushed
  rw [map_ok_iff] at stepped
  obtain ⟨⟨found, left⟩, made, same⟩ := stepped
  cases same
  refine flushed.trans ?_
  split at made
  · exact (keeps_freeChar made :)
  split at made
  · split at made
    · cases made
    · rename_i leaves
      exact ((keeps_leaveBlock leaves).trans (keeps_freeChar made) :)
  · exact (keeps_blockChar made :)

theorem keeps_run {steps : Nat} {text : List Char} (ran : lexer.run steps text = .ok next) :
    lexer.tokens <:+ next.tokens := by
  induction steps generalizing lexer text with
  | zero =>
      cases ran
      exact keeps_flush
  | succ steps inductionHypothesis =>
      cases text with
      | nil =>
          cases ran
          exact keeps_flush
      | cons c rest =>
          unfold run at ran
          split at ran
          · cases ran
          · rename_i stepped
            exact (keeps_step stepped).trans (inductionHypothesis ran)

end Lexer

end ImportSplice.Yaml
