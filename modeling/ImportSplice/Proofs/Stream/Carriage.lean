import ImportSplice.Stream.Sink

/-!
What a buffer carries.  However a text is cut into writes, a first part of it has
been taken by the destination and the rest waits in the buffer; or the destination
has refused, and then it holds exactly as many bytes as it had room for.  Each
operation of a buffer keeps this, so it holds at the end of every run of writes.
-/

namespace ImportSplice

namespace Sink

/-- Whether a destination has room for a number of bytes. -/
def Fits (sink : Sink) (size : Nat) : Prop := ∀ room, sink.room = some room → size ≤ room

def after (sink : Sink) (bytes : Bytes) : Sink :=
  { sink with accepted := sink.accepted ++ bytes, room := sink.room.map (· - bytes.length) }

/-- What is reported of a destination that took too little. -/
def complaint (sink : Sink) : Fault :=
  match sink.overrun with
  | .fails cause => cause
  | .short => .kind .shortWrite

variable {sink : Sink} {taken bytes : Bytes} {room size : Nat}

theorem after_nil (sink : Sink) : sink.after [] = sink := by
  cases sink
  simp [after]

theorem after_after (sink : Sink) (first second : Bytes) :
    (sink.after first).after second = sink.after (first ++ second) := by
  have accepted : sink.accepted ++ first ++ second = sink.accepted ++ (first ++ second) := by
    apply Array.ext'
    simp only [Array.toList_appendList, List.append_assoc]
  simp only [after, accepted, Option.map_map, List.length_append]
  congr 2
  funext room
  simp only [Function.comp_apply]
  omega

theorem fits_after (fits : sink.Fits taken.length) :
    (sink.after taken).Fits size ↔ sink.Fits (taken.length + size) := by
  constructor
  · intro enough room limited
    have earlier := fits room limited
    have later := enough (room - taken.length) (by simp [after, limited])
    omega
  · intro enough rest limited
    obtain ⟨room, found, rfl⟩ := Option.map_eq_some_iff.mp limited
    have total := enough room found
    omega

theorem fits_or_excess (sink : Sink) (taken : Bytes) (size : Nat) :
    (sink.after taken).Fits size ∨ ∃ room, sink.room = some room ∧
      (sink.after taken).room = some (room - taken.length) ∧ room - taken.length < size := by
  by_cases fits : (sink.after taken).Fits size
  · exact .inl fits
  · simp only [Fits, Classical.not_forall, Nat.not_le] at fits
    obtain ⟨rest, left, excess⟩ := fits
    obtain ⟨room, limited, rfl⟩ := Option.map_eq_some_iff.mp left
    exact .inr ⟨room, limited, left, excess⟩

theorem write_of_fits (fits : sink.Fits bytes.length) :
    sink.write bytes = { sink := sink.after bytes, count := bytes.length, failure := none } := by
  cases limit : sink.room with
  | none => simp [write, after, limit]
  | some room => simp [write, after, limit, fits room limit]

/-- A write that does not fit is cut off where the room ends; only then may the
destination complain. -/
theorem write_of_excess (limited : sink.room = some room) (excess : room < bytes.length) :
    (sink.write bytes).sink = sink.after (bytes.take room) ∧
      (sink.write bytes).count = room ∧
      ((sink.write bytes).failure = some sink.complaint ∨
        (sink.write bytes).failure = none ∧ sink.complaint = .kind .shortWrite) := by
  have tooLong : ¬ bytes.length ≤ room := by omega
  have full : room - min room bytes.length = 0 := by omega
  cases reaction : sink.overrun with
  | fails cause => simp [write, after, complaint, limited, tooLong, reaction, full]
  | short => simp [write, after, complaint, limited, tooLong, reaction, full]

end Sink

namespace Buffer

/-- Where the bytes of a text are that was handed to a buffer in front of a
destination. -/
inductive Carries (sink : Sink) (text : Bytes) (buffer : Buffer) : Prop where
  /-- The first part has arrived and the rest waits. -/
  | waiting (taken : Bytes) (working : buffer.failure = none)
      (whole : text = taken ++ buffer.held.toList) (fits : sink.Fits taken.length)
      (bounded : buffer.held.size ≤ capacity) (arrived : buffer.sink = sink.after taken)
  /-- The destination is full, and the text was longer than its room. -/
  | refused (room : Nat) (broken : buffer.failure = some sink.complaint)
      (limited : sink.room = some room) (excess : room < text.length)
      (arrived : buffer.sink = sink.after (text.take room))

variable {sink : Sink} {text more : Bytes} {buffer : Buffer}

theorem carries_start (sink : Sink) : Carries sink [] { sink } :=
  .waiting [] rfl rfl (fun _ _ => Nat.zero_le _) (Nat.zero_le _) (Sink.after_nil sink).symm

theorem Carries.append_of_broken (carried : Carries sink text buffer)
    (broken : buffer.failure.isSome) : Carries sink (text ++ more) buffer := by
  cases carried with
  | waiting taken working => simp [working] at broken
  | refused room broken limited excess arrived =>
      have same : (text ++ more).take room = text.take room :=
        List.take_append_of_le_length (Nat.le_of_lt excess)
      have longer : room < (text ++ more).length := by
        rw [List.length_append]
        omega
      exact .refused room broken limited longer (by rw [same, arrived])

theorem Carries.hold (carried : Carries sink text buffer) (working : buffer.failure = none)
    (small : more.length ≤ buffer.free) : Carries sink (text ++ more) (buffer.hold more) := by
  cases carried with
  | waiting taken working whole fits bounded arrived =>
      refine .waiting taken working ?_ fits ?_ arrived
      · simp [Buffer.hold, whole]
      · have size : (buffer.hold more).held.size = buffer.held.size + more.length := by
          rw [← Array.length_toList]
          simp [Buffer.hold]
        rw [free] at small
        omega
  | refused room broken => simp [working] at broken

theorem Carries.of_excess {taken rest : Bytes} {room : Nat} {failure : Option Fault}
    (fits : sink.Fits taken.length) (limited : sink.room = some room)
    (excess : room - taken.length < rest.length) (broken : failure = some sink.complaint)
    (held : Array UInt8) :
    Carries sink (taken ++ rest)
      { sink := ((sink.after taken).write rest).sink, held, failure } := by
  have enough := fits room limited
  have left : (sink.after taken).room = some (room - taken.length) := by
    simp [Sink.after, limited]
  have longer : room < (taken ++ rest).length := by
    rw [List.length_append]
    omega
  have cut : (taken ++ rest).take room = taken ++ rest.take (room - taken.length) := by
    rw [List.take_append, List.take_of_length_le enough]
  refine .refused room broken limited longer ?_
  rw [(Sink.write_of_excess left excess).1, Sink.after_after, cut]

theorem flush_held (working : buffer.flush.failure = none) : buffer.flush.held = #[] := by
  unfold flush at working ⊢
  split
  · rename_i idle
    rw [if_pos idle] at working
    simpa [working] using idle
  · rename_i busy
    rw [if_neg busy] at working
    dsimp only at working ⊢
    split at working
    · simp at working
    · split at working
      · simp at working
      · rename_i complete
        simp [complete]

theorem free_of_empty (empty : buffer.held = #[]) : buffer.free = capacity := by
  rw [free, empty]
  rfl

/-- A flush moves bytes and loses none: a refusal leaves the destination full. -/
theorem Carries.flush (carried : Carries sink text buffer) : Carries sink text buffer.flush := by
  unfold Buffer.flush
  split
  · exact carried
  · rename_i busy
    cases carried with
    | refused room broken => simp [broken] at busy
    | waiting taken working whole fits bounded arrived =>
        have size : buffer.held.size = buffer.held.toList.length := Array.length_toList.symm
        dsimp only
        rw [arrived, whole, size]
        rcases sink.fits_or_excess taken buffer.held.toList.length with
          enough | ⟨room, limited, left, excess⟩
        · rw [Sink.write_of_fits enough]
          simp only [Nat.lt_irrefl, if_false]
          refine .waiting (taken ++ buffer.held.toList) rfl (by simp) ?_ (Nat.zero_le _)
            (Sink.after_after ..)
          rw [List.length_append]
          exact (Sink.fits_after fits).mp enough
        · obtain ⟨-, count, reaction⟩ := Sink.write_of_excess left excess
          rcases reaction with loud | ⟨silent, short⟩
          · rw [loud]
            exact .of_excess fits limited excess rfl #[]
          · rw [silent, count]
            simp only [excess, if_true]
            exact .of_excess fits limited excess (congrArg some short.symm) #[]

theorem Carries.bypass (carried : Carries sink text buffer) (working : buffer.failure = none)
    (empty : buffer.held = #[]) : Carries sink (text ++ more) (buffer.bypass more) := by
  cases carried with
  | refused room broken => simp [working] at broken
  | waiting taken _ whole fits bounded arrived =>
      rw [empty, List.append_nil] at whole
      subst whole
      unfold Buffer.bypass
      dsimp only
      rw [arrived]
      rcases sink.fits_or_excess text more.length with enough | ⟨room, limited, left, excess⟩
      · rw [Sink.write_of_fits enough]
        simp only [List.drop_length, List.length_nil, Nat.zero_le, if_true]
        refine .waiting (text ++ more) working (by simp [Buffer.hold, empty]) ?_ ?_
          (Sink.after_after ..)
        · rw [List.length_append]
          exact (Sink.fits_after fits).mp enough
        · simpa [Buffer.hold] using bounded
      · obtain ⟨shortened, count, reaction⟩ := Sink.write_of_excess left excess
        rcases reaction with loud | ⟨silent, short⟩
        · rw [loud]
          exact .of_excess fits limited excess rfl buffer.held
        · -- A short count is noticed only if the rest does not fit into the buffer.
          rw [silent, count]
          dsimp only
          split
          · rename_i small
            have enough := fits room limited
            refine .waiting (text ++ more.take (room - text.length)) working ?_ ?_ ?_ ?_
            · simp [Buffer.hold, empty]
            · intro other found
              cases limited.symm.trans found
              simp only [List.length_append, List.length_take]
              omega
            · simpa [Buffer.hold, empty, ← Array.length_toList] using small
            · simp only [Buffer.hold, shortened, Sink.after_after]
          · exact .of_excess fits limited excess (congrArg some short.symm) buffer.held

theorem Carries.writeChunks (carried : Carries sink text buffer) (more : Bytes)
    (clear : buffer.failure = none → buffer.held = #[]) :
    Carries sink (text ++ more) (buffer.writeChunks more) := by
  fun_induction Buffer.writeChunks buffer more generalizing text with
  | case1 buffer more broken => exact carried.append_of_broken broken
  | case2 buffer more working small =>
      have healthy : buffer.failure = none := by simpa using working
      exact carried.hold healthy (by rwa [free_of_empty (clear healthy)])
  | case3 buffer more working large inductionHypothesis =>
      have healthy : buffer.failure = none := by simpa using working
      have filled : Carries sink (text ++ more.take capacity) (buffer.hold (more.take capacity)) :=
        carried.hold healthy (by
          rw [free_of_empty (clear healthy)]
          exact List.length_take_le capacity more)
      have flushed := inductionHypothesis filled.flush flush_held
      rwa [List.append_assoc, List.take_append_drop] at flushed

theorem Carries.writeText (carried : Carries sink text buffer) (more : Bytes) :
    Carries sink (text ++ more) (buffer.writeText more) := by
  unfold Buffer.writeText
  split
  · rename_i broken
    exact carried.append_of_broken broken
  · rename_i working
    have healthy : buffer.failure = none := by simpa using working
    dsimp only
    split
    · rename_i small
      exact carried.hold healthy small
    · have filled := (carried.hold healthy (List.length_take_le buffer.free more)).flush
      have rest := filled.writeChunks (more.drop buffer.free) flush_held
      rwa [List.append_assoc, List.take_append_drop] at rest

/-- A line of the source goes past the buffer where it is longer than an empty one. -/
theorem Carries.writeLine (carried : Carries sink text buffer) (line : Bytes) :
    Carries sink (text ++ line) (buffer.writeLine line) := by
  unfold Buffer.writeLine
  split
  · rename_i broken
    exact carried.append_of_broken broken
  · rename_i working
    have healthy : buffer.failure = none := by simpa using working
    dsimp only
    split
    · rename_i small
      exact carried.hold healthy small
    · split
      · rename_i empty
        exact carried.bypass healthy (by simpa using empty)
      · have filled := (carried.hold healthy (List.length_take_le buffer.free line)).flush
        have parts : text ++ line = text ++ line.take buffer.free ++ line.drop buffer.free := by
          rw [List.append_assoc, List.take_append_drop]
        rw [parts]
        split
        · rename_i broken
          exact filled.append_of_broken broken
        · rename_i running
          have ready : (buffer.hold (line.take buffer.free)).flush.failure = none := by
            simpa using running
          split
          · rename_i small
            exact filled.hold ready (by rwa [free_of_empty (flush_held ready)])
          · exact filled.bypass ready (flush_held ready)

end Buffer

end ImportSplice
