import ImportSplice.Proofs.Stream.ReadAhead
import ImportSplice.Proofs.Stream.Truncation

/-!
Copies that stop half-way.  A line is counted before it is written, and a buffer of bytes
may wait when a copy stops, so the destination holds a first part of the rendering of the
lines that were counted.  A buffer that still works is at most full: this bounds what is
missing after a failed read, and how late a refusal is noticed.
-/

namespace ImportSplice

namespace Buffer

variable {sink : Sink} {text : Bytes} {buffer : Buffer}

/-- The destination has a first part of the text, and a buffer that works has the rest. -/
theorem Carries.taken (carried : Carries sink text buffer) :
    ∃ taken, taken <+: text ∧ buffer.sink = sink.after taken ∧
      (buffer.failure = none → sink.Fits taken.length ∧ text.length ≤ taken.length + capacity) := by
  cases carried with
  | waiting taken working whole fits bounded arrived =>
      refine ⟨taken, ⟨buffer.held.toList, whole.symm⟩, arrived, fun _ => ⟨fits, ?_⟩⟩
      have size : buffer.held.size = buffer.held.toList.length := Array.length_toList.symm
      have lengths := congrArg List.length whole
      rw [List.length_append] at lengths
      omega
  | refused room broken limited excess arrived =>
      exact ⟨text.take room, List.take_prefix room text, arrived,
        fun working => by simp [working] at broken⟩

theorem Carries.accepted {room : Option Nat} {overrun : Overrun}
    (carried : Carries { room, overrun } text buffer) :
    buffer.sink.accepted.toList <+: text ∧
      (buffer.failure = none →
        text.length ≤ buffer.sink.accepted.toList.length + capacity) := by
  obtain ⟨taken, first, arrived, waiting⟩ := carried.taken
  have accepted : buffer.sink.accepted.toList = taken := by simp [arrived, Sink.after]
  rw [accepted]
  exact ⟨first, fun working => (waiting working).2⟩

theorem Carries.length_le {room : Nat} (carried : Carries sink text buffer)
    (working : buffer.failure = none) (limited : sink.room = some room) :
    text.length ≤ room + capacity := by
  obtain ⟨taken, -, -, waiting⟩ := carried.taken
  obtain ⟨fits, lag⟩ := waiting working
  have enough := fits room limited
  omega

end Buffer

namespace Injector

/-- The header and the first lines of a source, each after its insertion. -/
def renderFirst (injector : Injector) (path source : Bytes) (count : Nat) : Bytes :=
  Directive.render 1 path ++ injector.renderLines path 1 ((lines source).take count)

variable {sink : Sink} {text : Bytes} {buffer : Buffer}

/-- A run of the copying loop that a refusal ends was still within the room and one buffer
when it came to its last line. -/
theorem copyLines_notices (injector : Injector) (path : Bytes) (stats : Stats)
    (pieces : List Bytes) {room : Nat} (carried : buffer.Carries sink text)
    (working : buffer.failure = none) (limited : sink.room = some room)
    (broken : (injector.copyLines path stats buffer pieces).2.failure.isSome) :
    ∃ copied line left, pieces = copied ++ line :: left ∧
      (injector.copyLines path stats buffer pieces).1.lines = stats.lines + copied.length + 1 ∧
      (text ++ injector.renderLines path (stats.lines + 1) copied).length ≤
        room + Buffer.capacity := by
  induction pieces generalizing text stats buffer with
  | nil => simp [copyLines, working] at broken
  | cons line rest inductionHypothesis =>
      rw [copyLines] at broken ⊢
      split at broken
      · rename_i refused
        refine ⟨[], line, rest, rfl, ?_, ?_⟩
        · rw [if_pos refused]
          rfl
        · rw [renderLines, List.append_nil]
          exact carried.length_le working limited
      · rename_i running
        have written :=
          injector.copyLine_carries path (injector.count stats line).lines line carried
        obtain ⟨copied, last, left, cut, counted, bounded⟩ :=
          inductionHypothesis (injector.count stats line) written (by simpa using running) broken
        refine ⟨line :: copied, last, left, by rw [cut, List.cons_append], ?_, ?_⟩
        · rw [if_neg running, counted, List.length_cons]
          simp only [count]
          omega
        · rw [List.append_assoc] at bounded
          exact bounded

variable {injector : Injector} {path : Bytes} {room : Option Nat} {overrun : Overrun}
  {ending : Ending}

theorem renderFirst_of_cut {copied left : List Bytes} (cut : lines text = copied ++ left) :
    injector.renderFirst path text copied.length =
      Directive.render 1 path ++ injector.renderLines path 1 copied := by
  rw [renderFirst, cut, List.take_left]

theorem renderFirst_length_mono {fewer more : Nat} (ordered : fewer ≤ more) :
    (injector.renderFirst path text fewer).length ≤
      (injector.renderFirst path text more).length := by
  have parts : (lines text).take more =
      (lines text).take fewer ++ ((lines text).take more).drop fewer := by
    have cut := List.take_append_drop fewer ((lines text).take more)
    rw [List.take_take, Nat.min_eq_left ordered] at cut
    exact cut.symm
  rw [renderFirst, renderFirst, parts, renderLines_append]
  simp only [List.length_append]
  omega

/-- What a copy that may have stopped half-way leaves behind, for a text that ends in some
way and a destination with some room. -/
structure Halfway (injector : Injector) (path text : Bytes) (ending : Ending)
    (room : Option Nat) (overrun : Overrun) (outcome : Outcome) : Prop where
  counted : outcome.stats.lines ≤ (lines text).length
  inserted : outcome.stats.insertions =
    ((lines text).take outcome.stats.lines).countP injector.isMarker
  received : outcome.sink.accepted.toList <+: injector.renderFirst path text outcome.stats.lines
  /-- A copy fails because a write was refused, or because the text ended badly; then all lines
  have been counted, and at most one buffer of their rendering is missing. -/
  failing : ∀ fault, outcome.failure = some fault →
    (fault = .cite .writeOutput (Sink.complaint { room, overrun }) ∧ ∃ limit, room = some limit) ∨
    ∃ cause, ending = .failed cause ∧
      fault = .cite .readInput
        (.within (ascii "line " ++ Bytes.decimal (outcome.stats.lines + 1)) cause) ∧
      outcome.stats.lines = (lines text).length ∧
      (injector.renderFirst path text outcome.stats.lines).length ≤
        outcome.sink.accepted.toList.length + 65536
  /-- Before its last line a copy was within the room of the destination and one buffer. -/
  noticed : ∀ limit, room = some limit → 1 ≤ outcome.stats.lines →
    (injector.renderFirst path text (outcome.stats.lines - 1)).length ≤ limit + 65536

theorem length_before_last {count limit : Nat}
    (carried : buffer.Carries { room, overrun } (injector.renderFirst path text count))
    (working : buffer.failure = none) (limited : room = some limit) :
    (injector.renderFirst path text (count - 1)).length ≤ limit + Buffer.capacity :=
  Nat.le_trans (renderFirst_length_mono (Nat.sub_le count 1)) (carried.length_le working limited)

theorem halfway_finish {copied left : List Bytes} (cut : lines text = copied ++ left)
    (carried : buffer.Carries { room, overrun } (injector.renderFirst path text copied.length))
    (noticed : ∀ limit, room = some limit → 1 ≤ copied.length →
      (injector.renderFirst path text (copied.length - 1)).length ≤ limit + Buffer.capacity) :
    Halfway injector path text ending room overrun
      (finish { lines := copied.length, insertions := copied.countP injector.isMarker } buffer) where
  counted := by simp [cut, finish]
  inserted := by simp [cut, finish]
  received := carried.accepted.1
  failing := by
    intro fault failed
    obtain ⟨cause, broken, rfl⟩ := Option.map_eq_some_iff.mp failed
    obtain ⟨rfl, limited⟩ := carried.complaint_of_broken broken
    exact .inl ⟨rfl, limited⟩
  noticed := noticed

/-- A bad end of the text leaves what waits in the buffer unwritten. -/
theorem halfway_conclude {cause : Fault} (working : buffer.failure = none)
    (carried : buffer.Carries { room, overrun }
      (injector.renderFirst path text (lines text).length)) :
    Halfway injector path text (.failed cause) room overrun
      (conclude { lines := (lines text).length,
                  insertions := (lines text).countP injector.isMarker } buffer (.failed cause)) where
  counted := Nat.le_refl _
  inserted := by simp [conclude]
  received := carried.accepted.1
  failing := by
    intro fault failed
    cases failed
    exact .inr ⟨cause, rfl, rfl, rfl, carried.accepted.2 working⟩
  noticed := fun _ limited _ => length_before_last carried working limited

theorem settle_halfway (injector : Injector) (path text : Bytes) (ending : Ending)
    (header : buffer.Carries { room, overrun } (Directive.render 1 path))
    (started : buffer.failure = none) :
    Halfway injector path text ending room overrun
      (settle ending (injector.copyLines path {} buffer (lines text))) := by
  obtain ⟨copied, left, cut, counts, carries, complete⟩ :=
    injector.copyLines_carries path {} (lines text) header
  have carried : (injector.copyLines path {} buffer (lines text)).2.Carries { room, overrun }
      (injector.renderFirst path text copied.length) := by
    rw [renderFirst_of_cut cut]
    exact carries
  rw [settle, counts]
  simp only [Nat.zero_add]
  split
  · rename_i broken
    refine halfway_finish cut carried ?_
    intro limit limited _
    obtain ⟨earlier, line, later, sameCut, sameCount, bounded⟩ :=
      injector.copyLines_notices path {} (lines text) header started limited broken
    have last : copied.length - 1 = earlier.length := by
      rw [counts] at sameCount
      simp only at sameCount
      omega
    rw [last, renderFirst_of_cut sameCut]
    exact bounded
  · rename_i running
    have working : (injector.copyLines path {} buffer (lines text)).2.failure = none := by
      simpa using running
    have whole : lines text = copied := by rw [cut, complete working, List.append_nil]
    rw [← whole] at carried ⊢
    cases ending with
    | finished =>
        exact halfway_finish (List.append_nil _).symm carried.flush
          (fun _ limited _ => length_before_last carried working limited)
    | failed cause => exact halfway_conclude working carried

theorem inject_halfway (injector : Injector) (source : Source) (path : Bytes) (room : Option Nat)
    (overrun : Overrun) :
    Halfway injector path source.bytes source.ending room overrun
      (injector.inject source { room, overrun } path) := by
  have header := (Buffer.carries_start { room, overrun }).writeText (Directive.render 1 path)
  rw [List.nil_append] at header
  cases started : (Buffer.writeText { sink := { room, overrun } }
      (Directive.render 1 path)).failure with
  | some fault =>
      have stopped : injector.inject source { room, overrun } path = finish {}
          (Buffer.writeText { sink := { room, overrun } } (Directive.render 1 path)) := by
        simp [inject, started]
      have cut : lines source.bytes = [] ++ lines source.bytes := rfl
      rw [stopped]
      exact halfway_finish cut (by simpa [renderFirst, renderLines] using header) (by simp)
  | none =>
      rw [inject_eq_settle _ _ _ _ started, source.lines_eq]
      exact settle_halfway injector path source.bytes source.ending header started

/-- However a copy ends, it has counted a first part of the lines, and the destination has
taken a first part of their rendering. -/
theorem injectFrom_stops_halfway (injector : Injector) (path : Bytes) (room : Option Nat)
    (overrun : Overrun) {reader : Reader} (steady : reader.Steady) :
    Halfway injector path reader.bytes reader.lastReport.ending room overrun
      (injector.injectFrom reader { room, overrun } path) := by
  rw [injector.injectFrom_eq_inject steady, ← bytes_sourceFrom]
  exact injector.inject_halfway (sourceFrom reader) path room overrun

/-- The last line is not terminated, and the room ends inside the block, which is found out
when everything has been counted. -/
theorem injectFrom_stops_halfway_in_block :
    let reader : Reader :=
      { pieces := [ascii "import qual", ascii "ified Prelude\nma", ascii "in"],
        stop := .reports (.within (ascii "pipe") .endOfData), withData := true }
    let overrun : Overrun := .fails (.text (ascii "full"))
    let outcome := ({} : Injector).injectFrom reader { room := some 30, overrun } (ascii "A.hs")
    reader.Steady ∧
      Halfway {} (ascii "A.hs") reader.bytes .finished (some 30) overrun outcome ∧
      outcome.stats = { lines := 2, insertions := 1 } ∧
      outcome.failure = some (.cite .writeOutput (.text (ascii "full"))) ∧
      outcome.sink.accepted.toList = Directive.render 1 (ascii "A.hs") ++ ascii "\nimport " := by
  intro reader overrun outcome
  have steady : reader.Steady := Reader.steady_of_nonempty (by decide)
  exact ⟨steady, injectFrom_stops_halfway {} (ascii "A.hs") (some 30) overrun steady,
    by decide +kernel, by decide +kernel, by decide +kernel⟩

end Injector

end ImportSplice
