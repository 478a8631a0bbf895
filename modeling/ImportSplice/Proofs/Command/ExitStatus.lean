import ImportSplice.Command.Exit

/-!
What an exit status tells about a fault.  A fault reveals itself and the causes that its
contexts leave in sight, each of which declares a kind of its own or none; the exit code
depends on nothing but the kinds that are declared in sight.  Faults that are joined show
what any of them shows, so neither their order nor the way they are nested matters.
-/

namespace ImportSplice

namespace Fault

/-- The faults in sight of a fault: the fault itself, and what its visible causes reveal. -/
inductive Reveals : Fault → Fault → Prop where
  | itself (fault : Fault) : Reveals fault fault
  | cited {kind : Kind} {cause part : Fault} (seen : Reveals cause part) :
      Reveals (.cite kind cause) part
  | within {context : Bytes} {cause part : Fault} (seen : Reveals cause part) :
      Reveals (.within context cause) part
  | first {one other part : Fault} (seen : Reveals one part) : Reveals (.both one other) part
  | second {one other part : Fault} (seen : Reveals other part) : Reveals (.both one other) part
  | staged {stage : Stage} {path : Bytes} {cause part : Fault} (seen : Reveals cause part) :
      Reveals (.fileAccess stage path cause) part

/-- What a fault says of itself, whatever caused it. -/
inductive Declares : Fault → Kind → Prop where
  | kind (kind : Kind) : Declares (.kind kind) kind
  | cite (kind : Kind) (cause : Fault) : Declares (.cite kind cause) kind
  | fileAccess (stage : Stage) (path : Bytes) (cause : Fault) :
      Declares (.fileAccess stage path cause) .fileAccess
  | notFound (name : Bytes) (tried : List Bytes) : Declares (.notFound name tried) .configNotFound
  | call {refusal : Refusal} {kind : Kind} (operation path : Bytes)
      (known : refusal.kind? = some kind) : Declares (.call operation path refusal) kind
  | rename {refusal : Refusal} {kind : Kind} (old new : Bytes)
      (known : refusal.kind? = some kind) : Declares (.rename old new refusal) kind

def Visible (fault : Fault) (kind : Kind) : Prop := ∃ part, Reveals fault part ∧ Declares part kind

variable {fault part : Fault} {kind : Kind}

theorem Declares.shows (declared : Declares part kind) : part.shows kind = true := by
  cases declared with
  | kind | cite | fileAccess | notFound => simp [Fault.shows]
  | call operation path known | rename old new known => simp [Fault.shows, known]

theorem Reveals.shows (seen : Reveals fault part) (shown : part.shows kind = true) :
    fault.shows kind = true := by
  induction seen with
  | itself => exact shown
  | within _ inductionHypothesis => exact inductionHypothesis shown
  | cited _ inductionHypothesis | first _ inductionHypothesis | second _ inductionHypothesis
  | staged _ inductionHypothesis =>
      simp [Fault.shows, inductionHypothesis shown]

theorem visible_of_shows (shown : fault.shows kind = true) : fault.Visible kind := by
  induction fault with
  | kind own =>
      rw [← beq_iff_eq.mp shown]
      exact ⟨_, .itself _, .kind own⟩
  | text words => simp [shows] at shown
  | cite own cause inductionHypothesis =>
      rcases Bool.or_eq_true_iff.mp shown with same | beneath
      · rw [← beq_iff_eq.mp same]
        exact ⟨_, .itself _, .cite own cause⟩
      · obtain ⟨part, seen, declared⟩ := inductionHypothesis beneath
        exact ⟨part, .cited seen, declared⟩
  | within context cause inductionHypothesis =>
      obtain ⟨part, seen, declared⟩ := inductionHypothesis shown
      exact ⟨part, .within seen, declared⟩
  | hidden context cause => simp [shows] at shown
  | both one other firstHypothesis secondHypothesis =>
      rcases Bool.or_eq_true_iff.mp shown with left | right
      · obtain ⟨part, seen, declared⟩ := firstHypothesis left
        exact ⟨part, .first seen, declared⟩
      · obtain ⟨part, seen, declared⟩ := secondHypothesis right
        exact ⟨part, .second seen, declared⟩
  | fileAccess stage path cause inductionHypothesis =>
      rcases Bool.or_eq_true_iff.mp shown with same | beneath
      · rw [beq_iff_eq.mp same]
        exact ⟨_, .itself _, .fileAccess stage path cause⟩
      · obtain ⟨part, seen, declared⟩ := inductionHypothesis beneath
        exact ⟨part, .staged seen, declared⟩
  | notFound name tried =>
      rw [beq_iff_eq.mp shown]
      exact ⟨_, .itself _, .notFound name tried⟩
  | call operation path refusal => exact ⟨_, .itself _, .call operation path (beq_iff_eq.mp shown)⟩
  | rename old new refusal => exact ⟨_, .itself _, .rename old new (beq_iff_eq.mp shown)⟩

/-- What a fault can be recognised as is what is declared in sight of it. -/
theorem shows_iff_visible : fault.shows kind = true ↔ fault.Visible kind := by
  constructor
  · exact visible_of_shows
  · intro ⟨part, seen, declared⟩
    exact seen.shows declared.shows

instance (fault : Fault) : DecidablePred fault.Visible := fun _ =>
  decidable_of_iff _ shows_iff_visible

/-- Members that are joined, in any nesting; what is missing leaves no trace. -/
inductive Joined : List Fault → Option Fault → Prop where
  | nothing : Joined [] none
  | single (fault : Fault) : Joined [fault] (some fault)
  | join (parts : List (List Fault × Option Fault))
      (each : ∀ part ∈ parts, Joined part.1 part.2) :
      Joined (parts.flatMap Prod.fst) (join (parts.map Prod.snd))

section Joining

variable {members : List Fault} {result : Option Fault} {test : Fault → Bool}
  (divides : ∀ one other, test (.both one other) = (test one || test other))

include divides

theorem any_join (members : List (Option Fault)) :
    (join members).any test = members.any (·.any test) := by
  induction members with
  | nil => rfl
  | cons member rest inductionHypothesis =>
      rw [List.any_cons, ← inductionHypothesis]
      cases member with
      | none => rfl
      | some fault =>
          rw [join]
          cases join rest with
          | none => simp
          | some others => exact divides fault others

/-- What holds of two faults together if it holds of one of them holds of members that are
joined if it holds of one of them. -/
theorem Joined.any_eq (joined : Joined members result) : result.any test = members.any test := by
  induction joined with
  | nothing => rfl
  | single fault => simp
  | join parts each inductionHypothesis =>
      rw [any_join divides, List.any_map, List.any_flatMap, Bool.eq_iff_iff, List.any_eq_true,
        List.any_eq_true]
      apply exists_congr
      intro part
      apply and_congr_right
      intro member
      rw [Function.comp_apply, inductionHypothesis part member]

end Joining

theorem Joined.eq_none_iff {members : List Fault} {result : Option Fault}
    (joined : Joined members result) : result = none ↔ members = [] := by
  have present : result.any (fun _ => true) = members.any fun _ => true :=
    joined.any_eq fun _ _ => rfl
  cases members with
  | nil => simpa using present
  | cons member rest => simpa [← Option.isSome_iff_ne_none] using present

end Fault

namespace Exit

open Fault

/-- The code that kinds in sight call for: a file that cannot be read or written comes before a
request that cannot be met, and that before a refusal by the system. -/
def codeFor (seen : Kind → Prop) [DecidablePred seen] : Nat :=
  if seen .fileAccess ∨ seen .readInput ∨ seen .writeOutput then 3
  else if seen .usage ∨ seen .invalidMarker ∨ seen .configNotFound ∨ seen .emptyConfigName ∨
      seen .configParse ∨ seen .fieldTooLong ∨ seen .invalidField then 2
  else if seen .notExist ∨ seen .permission then 3
  else 1

theorem codeFor_congr {seen other : Kind → Prop} [DecidablePred seen] [DecidablePred other]
    (same : ∀ kind, seen kind ↔ other kind) : codeFor seen = codeFor other := by
  simp only [codeFor, same]

theorem code_ofFault (fault : Fault) : (ofFault fault).code = codeFor fault.Visible := by
  have shown : codeFor fault.Visible = codeFor fun kind => fault.shows kind = true :=
    codeFor_congr fun _ => shows_iff_visible.symm
  rw [shown, ofFault, codeFor]
  simp only [transferKinds, requestKinds, systemKinds, List.any_cons, List.any_nil, Bool.or_false,
    Bool.or_eq_true]
  repeat' split
  all_goals rfl

theorem code_eq_zero_iff (outcome : Option Fault) :
    (ofOutcome outcome).code = 0 ↔ outcome = none := by
  cases outcome with
  | none => simp [ofOutcome, code]
  | some fault =>
      simp only [ofOutcome, code_ofFault, codeFor, reduceCtorEq, iff_false]
      repeat' split
      all_goals simp

theorem code_joined {members : List Fault} {fault : Fault}
    (joined : Joined members (some fault)) :
    (ofFault fault).code = codeFor fun kind => ∃ member ∈ members, member.Visible kind := by
  rw [code_ofFault]
  apply codeFor_congr
  intro kind
  have shown : (some fault).any (·.shows kind) = members.any (·.shows kind) :=
    joined.any_eq fun _ _ => rfl
  rw [Option.any_some] at shown
  simp only [← shows_iff_visible, shown, List.any_eq_true]

/-- The exit code is a matter of the kinds in sight.  Contexts add nothing to them and hiding
takes all away, a failed stage anywhere in sight decides, and members that are joined in any
order and nesting count together. -/
theorem code_tells_kinds_in_sight :
    (∀ outcome, (ofOutcome outcome).code = 0 ↔ outcome = none) ∧
    (∀ first second : Fault, (∀ kind, first.Visible kind ↔ second.Visible kind) →
      (ofFault first).code = (ofFault second).code) ∧
    (∀ context cause, (ofFault (.within context cause)).code = (ofFault cause).code) ∧
    (∀ context cause, (ofFault (.hidden context cause)).code = 1) ∧
    (∀ fault stage path cause, fault.Reveals (.fileAccess stage path cause) →
      (ofFault fault).code = 3) ∧
    ∀ members result, Joined members result →
      (ofOutcome result).code = if members = [] then 0
        else codeFor fun kind => ∃ member ∈ members, member.Visible kind := by
  refine ⟨code_eq_zero_iff, ?_, ?_, ?_, ?_, ?_⟩
  · intro first second same
    rw [code_ofFault, code_ofFault, codeFor_congr same]
  · intro context cause
    rfl
  · intro context cause
    rfl
  · intro fault stage path cause seen
    have failed : fault.Visible .fileAccess := ⟨_, seen, .fileAccess stage path cause⟩
    rw [code_ofFault, codeFor, if_pos (.inl failed)]
  · intro members result joined
    split
    · rename_i empty
      rw [code_eq_zero_iff, joined.eq_none_iff, empty]
    · rename_i nonempty
      cases result with
      | none => exact absurd (joined.eq_none_iff.mp rfl) nonempty
      | some fault => exact code_joined joined

/-- Two joins, one within the other, with members that are missing: a hidden failure of a stage
does not count, and a search that found nothing outweighs a refusal. -/
theorem code_tells_search_among_refusals :
    let failure : Fault := .fileAccess .openInput (ascii "A.hs") (.kind .notExist)
    let concealed : Fault := .hidden (ascii "input") failure
    let refused : Fault := .call (ascii "open") (ascii "c.yaml") .accessDenied
    let search : Fault := .within (ascii "loading config") (.notFound (ascii "c") [])
    Joined [concealed, refused, search]
        (join [none, join [some concealed, some refused], none, some search]) ∧
      (ofOutcome (join [none, join [some concealed, some refused], none, some search])).code = 2 ∧
      failure.Reveals failure ∧ (ofFault failure).code = 3 ∧
      (∀ kind, search.Visible kind ↔ (Fault.kind .configNotFound).Visible kind) ∧
      (ofFault search).code = (ofFault (.kind .configNotFound)).code := by
  intro failure concealed refused search
  have inner : Joined [concealed, refused] (join [some concealed, some refused]) := by
    apply Joined.join [([concealed], some concealed), ([refused], some refused)]
    simp [Joined.single]
  have joined : Joined [concealed, refused, search]
      (join [none, join [some concealed, some refused], none, some search]) := by
    apply Joined.join [([], none), ([concealed, refused], join [some concealed, some refused]),
      ([], none), ([search], some search)]
    simp [Joined.single, Joined.nothing, inner]
  have same : ∀ kind, search.Visible kind ↔ (Fault.kind .configNotFound).Visible kind := by
    intro kind
    rw [← shows_iff_visible, ← shows_iff_visible]
    cases kind <;> decide
  obtain ⟨-, alike, -, -, decided, counted⟩ := code_tells_kinds_in_sight
  refine ⟨joined, ?_, .itself failure, decided failure _ _ _ (.itself failure), same,
    alike search _ same⟩
  rw [counted _ _ joined]
  decide

end Exit

end ImportSplice
