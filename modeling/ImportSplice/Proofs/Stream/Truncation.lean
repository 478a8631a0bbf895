import ImportSplice.Proofs.Stream.Delivery

/-!
Copies to a destination of any size.  Where the loop stops, the text that is still to
come is not needed to say what the destination holds, so every copy of a source that
ends well leaves its whole rendering carried by the last buffer.  What a limited
destination took is therefore a first part of what an unlimited one would take, and a
copy that reports no failure has delivered everything.
-/

namespace ImportSplice

namespace Buffer

variable {sink : Sink} {text : Bytes} {buffer : Buffer}

/-- An emptied buffer tells how the room of its destination compares to a text. -/
theorem Carries.cases_of_limit {limit : Nat} (carried : Carries sink text buffer)
    (cleared : buffer.failure = none → buffer.held = #[]) (limited : sink.room = some limit) :
    (buffer.failure = none ∧ text.length ≤ limit ∧ buffer.sink = sink.after text) ∨
      (buffer.failure = some sink.complaint ∧ limit < text.length ∧
        buffer.sink = sink.after (text.take limit)) := by
  cases carried with
  | waiting taken working whole fits bounded arrived =>
      rw [cleared working, List.append_nil] at whole
      subst whole
      exact .inl ⟨working, fits limit limited, arrived⟩
  | refused room broken found excess arrived =>
      cases limited.symm.trans found
      exact .inr ⟨broken, excess, arrived⟩

/-- Only a limited destination breaks a buffer, and by its own complaint. -/
theorem Carries.complaint_of_broken {fault : Fault} (carried : Carries sink text buffer)
    (broken : buffer.failure = some fault) :
    fault = sink.complaint ∧ ∃ room, sink.room = some room := by
  cases carried with
  | waiting taken working => simp [working] at broken
  | refused room complained limited =>
      exact ⟨Option.some.inj (broken.symm.trans complained), room, limited⟩

end Buffer

namespace Injector

theorem renderLines_append (injector : Injector) (path : Bytes) (number : Nat)
    (first second : List Bytes) :
    injector.renderLines path number (first ++ second) =
      injector.renderLines path number first ++
        injector.renderLines path (number + first.length) second := by
  induction first generalizing number with
  | nil => rfl
  | cons line rest inductionHypothesis =>
      have shifted : number + (rest.length + 1) = number + 1 + rest.length := by omega
      simp only [List.cons_append, renderLines, inductionHypothesis, List.length_cons, shifted,
        List.append_assoc]

/-- Wherever a copy ends, its last buffer carries the whole rendering, and the buffer is
empty unless the destination refused. -/
theorem inject_carries (injector : Injector) (source : Source) (sink : Sink) (path : Bytes)
    (finished : source.ending = .finished) :
    ∃ stats buffer, injector.inject source sink path = finish stats buffer ∧
      buffer.Carries sink (injector.render path source.bytes) ∧
      (buffer.failure = none → buffer.held = #[]) := by
  have header := (Buffer.carries_start sink).writeText (Directive.render 1 path)
  obtain ⟨copied, left, cut, -, carries, complete⟩ :=
    injector.copyLines_carries path {} source.lines header
  have whole : injector.render path source.bytes = [] ++ Directive.render 1 path ++
      injector.renderLines path 1 copied ++
        injector.renderLines path (1 + copied.length) left := by
    rw [render, ← source.lines_eq, cut, renderLines_append]
    simp
  rw [whole]
  unfold inject
  dsimp only
  split
  · rename_i broken
    refine ⟨_, _, rfl, ?_, fun working => by simp [working] at broken⟩
    rw [List.append_assoc]
    exact header.append_of_broken broken
  · split
    · rename_i broken
      exact ⟨_, _, rfl, carries.append_of_broken broken,
        fun working => by simp [working] at broken⟩
    · rename_i running
      rw [finished]
      refine ⟨_, _, rfl, ?_, Buffer.flush_held⟩
      rw [complete (by simpa using running), renderLines, List.append_nil]
      exact carries.flush

/-- A copy that reports no failure met a source that ended well and delivered its whole
rendering. -/
theorem inject_complete {injector : Injector} {source : Source} {sink : Sink} {path : Bytes}
    (succeeded : (injector.inject source sink path).failure = none) :
    source.ending = .finished ∧
      (injector.inject source sink path).sink =
        sink.after (injector.render path source.bytes) := by
  have finished : source.ending = .finished := by
    unfold inject at succeeded
    dsimp only at succeeded
    split at succeeded
    · rename_i broken
      obtain ⟨fault, found⟩ := Option.isSome_iff_exists.mp broken
      simp [finish, found] at succeeded
    · split at succeeded
      · rename_i broken
        obtain ⟨fault, found⟩ := Option.isSome_iff_exists.mp broken
        simp [finish, found] at succeeded
      · cases ended : source.ending with
        | finished => rfl
        | failed cause => simp [ended, conclude] at succeeded
  obtain ⟨stats, buffer, outcome, carried, cleared⟩ :=
    injector.inject_carries source sink path finished
  rw [outcome] at succeeded ⊢
  have working : buffer.failure = none := by simpa [finish] using succeeded
  exact ⟨finished, carried.sink_eq working (cleared working)⟩

/-- A copy fails because its destination refused or because its source ended badly; the
fault cites which, and the line that could not be read. -/
theorem inject_failure {injector : Injector} {source : Source} {sink : Sink} {path : Bytes}
    {fault : Fault} (failed : (injector.inject source sink path).failure = some fault) :
    (fault = .cite .writeOutput sink.complaint ∧ ∃ room, sink.room = some room) ∨
      ∃ cause, source.ending = .failed cause ∧
        fault = .cite .readInput (.within (ascii "line " ++
          Bytes.decimal ((injector.inject source sink path).stats.lines + 1)) cause) := by
  have header := (Buffer.carries_start sink).writeText (Directive.render 1 path)
  obtain ⟨copied, left, -, -, carries, -⟩ :=
    injector.copyLines_carries path {} source.lines header
  have refused : ∀ {stats buffer text}, Buffer.Carries sink text buffer →
      (finish stats buffer).failure = some fault →
      fault = .cite .writeOutput sink.complaint ∧ ∃ room, sink.room = some room := by
    intro stats buffer text carried broken
    obtain ⟨cause, found, same⟩ := Option.map_eq_some_iff.mp broken
    obtain ⟨complaint, limited⟩ := carried.complaint_of_broken found
    exact ⟨by rw [← same, complaint], limited⟩
  unfold inject at failed ⊢
  dsimp only at failed ⊢
  split at failed
  · exact .inl (refused header failed)
  · rename_i started
    split at failed
    · exact .inl (refused carries failed)
    · rename_i running
      rw [if_neg started, if_neg running]
      cases ended : source.ending with
      | finished =>
          rw [ended] at failed
          exact .inl (refused carries.flush failed)
      | failed cause =>
          rw [ended] at failed
          exact .inr ⟨cause, rfl, (Option.some.inj failed).symm⟩

/-- A limited destination takes exactly the first bytes of what an unlimited one takes, and
the copy succeeds if that is everything. -/
theorem inject_of_limited (injector : Injector) (source : Source) (path : Bytes)
    (limit : Nat) (cause : Fault) (finished : source.ending = .finished) :
    let whole := (injector.inject source {} path).sink.accepted.toList
    let limited := injector.inject source { room := some limit, overrun := .fails cause } path
    (limited.failure = none ↔ whole.length ≤ limit) ∧
      limited.sink.accepted.toList = whole.take (min limit whole.length) ∧
      (limit < whole.length → limited.failure = some (.cite .writeOutput cause)) := by
  intro whole limited
  have rendered : whole = injector.render path source.bytes := by
    simp [whole, injector.inject_of_unlimited source {} path finished rfl, Sink.after]
  obtain ⟨stats, buffer, outcome, carried, cleared⟩ :=
    injector.inject_carries source { room := some limit, overrun := .fails cause } path finished
  have same : limited = finish stats buffer := outcome
  rw [same, ← List.take_eq_take_min]
  rw [← rendered] at carried
  rcases carried.cases_of_limit cleared rfl with ⟨working, fits, arrived⟩ | ⟨broken, excess, arrived⟩
  · refine ⟨by simp [finish, working, fits], ?_, fun excess => absurd fits (by omega)⟩
    simp [finish, arrived, Sink.after, List.take_of_length_le fits]
  · refine ⟨?_, by simp [finish, arrived, Sink.after], fun _ => ?_⟩
    · simp only [finish, broken, Option.map_some, reduceCtorEq, false_iff]
      omega
    · simp [finish, broken, Sink.complaint]

/-- A destination that fails after a number of bytes has taken exactly the first bytes of
what an unlimited one takes.  The copy succeeds if that is everything.  If not, its fault is
that of a failed write with the destination's own fault as its cause, and everything the
latter shows is shown; a failed read is shown only if the destination's own fault shows one. -/
theorem injectFrom_limited_takes_first_part (injector : Injector) {reader : Reader}
    (path : Bytes) (limit : Nat) (cause : Fault) (steady : reader.Steady)
    (finished : reader.lastReport.ending = .finished) :
    let whole := (injector.injectFrom reader {} path).sink.accepted.toList
    let limited := injector.injectFrom reader { room := some limit, overrun := .fails cause } path
    (limited.failure = none ↔ whole.length ≤ limit) ∧
      limited.sink.accepted.toList = whole.take (min limit whole.length) ∧
      (limit < whole.length → ∃ fault, limited.failure = some fault ∧
        fault = .cite .writeOutput cause ∧ fault.shows .writeOutput = true ∧
        (∀ kind, cause.shows kind = true → fault.shows kind = true) ∧
        (cause.shows .readInput = false → fault.shows .readInput = false)) := by
  intro whole limited
  obtain ⟨complete, received, refused⟩ :=
    injector.inject_of_limited (sourceFrom reader) path limit cause finished
  rw [← injector.injectFrom_eq_inject steady, ← injector.injectFrom_eq_inject steady]
    at complete received refused
  refine ⟨complete, received, fun excess => ⟨_, refused excess, rfl, rfl, ?_, ?_⟩⟩
  · intro kind shown
    rw [Fault.shows, shown, Bool.or_true]
  · intro unread
    rw [Fault.shows, unread]
    rfl

/-- The room ends inside the block, seven bytes after the header. -/
theorem injectFrom_limited_inside_block :
    let reader : Reader :=
      { pieces := [ascii "import qualified", ascii " Prelude\n"], stop := .reports .endOfData }
    let cause : Fault := .within (ascii "pipe") (.kind .closed)
    let limited := ({} : Injector).injectFrom reader
      { room := some 29, overrun := .fails cause } (ascii "A.hs")
    reader.Steady ∧ reader.lastReport.ending = .finished ∧
      29 < (({} : Injector).injectFrom reader {} (ascii "A.hs")).sink.accepted.toList.length ∧
      (∃ fault, limited.failure = some fault ∧ fault.shows .writeOutput = true ∧
        fault.shows .closed = true ∧ fault.shows .readInput = false) ∧
      limited.sink.accepted.toList =
        Directive.render 1 (ascii "A.hs") ++ ascii "\nimport" := by
  intro reader cause limited
  have steady : reader.Steady := by decide
  obtain ⟨-, received, refused⟩ := injectFrom_limited_takes_first_part {} (ascii "A.hs") 29
    cause steady rfl
  have excess : 29 <
      (({} : Injector).injectFrom reader {} (ascii "A.hs")).sink.accepted.toList.length := by
    decide +kernel
  obtain ⟨fault, failed, -, written, own, unread⟩ := refused excess
  exact ⟨steady, rfl, excess, ⟨fault, failed, written, own .closed rfl, unread rfl⟩,
    received.trans (by decide +kernel)⟩

/-- The destination fails with a failed read of its own. -/
theorem injectFrom_limited_shows_failed_read :
    ¬ ∀ (injector : Injector) (reader : Reader) (path : Bytes) (limit : Nat)
        (cause fault : Fault), reader.Steady → reader.lastReport.ending = .finished →
      limit < (injector.injectFrom reader {} path).sink.accepted.toList.length →
      (injector.injectFrom reader { room := some limit, overrun := .fails cause } path).failure =
        some fault →
      fault.shows .readInput = false := by
  intro unread
  let reader : Reader := { pieces := [], stop := .reports .endOfData }
  have excess : 0 < (({} : Injector).injectFrom reader {} []).sink.accepted.toList.length := by
    decide +kernel
  have failed : (({} : Injector).injectFrom reader
      { room := some 0, overrun := .fails (.kind .readInput) } []).failure =
        some (.cite .writeOutput (.kind .readInput)) := by decide +kernel
  have hidden := unread {} reader [] 0 _ _ (by decide) rfl excess failed
  contradiction

end Injector

end ImportSplice
