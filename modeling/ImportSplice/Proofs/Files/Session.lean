import ImportSplice.Proofs.Files.Replacement

/-!
Several staged outputs in use at once.  A session holds the outputs, the file system they
share and the calls made so far, which tell what each output has taken, whether it is
finished, and which output was the last to replace an entry.
-/

namespace ImportSplice

namespace Output

/-- What is done with an output once it is there. -/
inductive Act where
  | write (bytes : Bytes)
  | close
  | commit
  | abort
  deriving DecidableEq, Repr

/-- A commit finishes an output, and so does giving it up, whether they succeed or not. -/
def Act.finishes : Act → Bool
  | .commit | .abort => true
  | .write _ | .close => false

/-- The bytes that an act adds to an output which takes a number of them. -/
def Act.accepted : Act → Nat → Bytes
  | .write bytes, count => bytes.take count
  | .close, _ | .commit, _ | .abort, _ => []

/-- One act on an output; gives the number of bytes that were taken too. -/
def perform (system : FileSystem) (output : Output) : Act → Step × Nat
  | .write bytes => write system output bytes
  | .close => (close system output, 0)
  | .commit => (commit system output, 0)
  | .abort => (abort system output, 0)

end Output

structure Request where
  path : Bytes
  mode : Nat
  chance : Output.Chance := {}

/-- One act on one of several outputs, and what came of it. -/
structure Call where
  index : Nat
  act : Output.Act
  count : Nat
  failure : Option Fault

namespace Call

def accepted (call : Call) : Bytes := call.act.accepted call.count

def replaces (call : Call) : Bool := call.act == .commit && call.failure.isNone

variable {call : Call}

theorem act_of_replaces (replaces : call.replaces = true) : call.act = .commit := by
  simp only [Call.replaces, Bool.and_eq_true, beq_iff_eq] at replaces
  exact replaces.1

theorem accepted_of_replaces (replaces : call.replaces = true) : call.accepted = [] := by
  rw [Call.accepted, act_of_replaces replaces, Output.Act.accepted]

theorem not_replaces (failed : call.act = .commit → call.failure.isSome) :
    call.replaces ≠ true := by
  intro replaces
  have present := failed (act_of_replaces replaces)
  simp only [Call.replaces, Bool.and_eq_true, Option.isNone_iff_eq_none] at replaces
  rw [replaces.2] at present
  contradiction

end Call

/-- Calls that were made, the latest first. -/
abbrev History := List Call

namespace History

def finished (history : History) (index : Nat) : Bool :=
  history.any fun call => call.index == index && call.act.finishes

/-- The bytes that an output has taken, in the order of the calls. -/
def accepted (history : History) (index : Nat) : Bytes :=
  (history.reverse.filter (·.index == index)).flatMap Call.accepted

/-- The output whose commit was the last one to succeed at a location. -/
def lastReplacer (history : History) (before : FileSystem) (requests : List Request)
    (location : Location) : Option Nat :=
  (history.find? fun call => call.replaces &&
    (requests[call.index]?.bind fun request => before.denoted? request.path) == some location).map
      (·.index)

variable (history : History) (call : Call)

theorem finished_cons (index : Nat) :
    finished (call :: history) index =
      (call.index == index && call.act.finishes || finished history index) := rfl

theorem accepted_cons (index : Nat) :
    accepted (call :: history) index =
      accepted history index ++ if call.index = index then call.accepted else [] := by
  rw [accepted, List.reverse_cons, List.filter_append, List.flatMap_append]
  by_cases same : call.index = index <;> simp [accepted, same]

theorem lastReplacer_cons {before : FileSystem} {requests : List Request} {request : Request}
    (asked : requests[call.index]? = some request) (location : Location) :
    lastReplacer (call :: history) before requests location =
      if call.replaces = true ∧ before.denoted? request.path = some location then some call.index
      else lastReplacer history before requests location := by
  rw [lastReplacer, List.find?_cons, asked, Option.bind_some]
  by_cases met : call.replaces = true ∧ before.denoted? request.path = some location
  · simp [met]
  · rw [if_neg met]
    have passed : (call.replaces && before.denoted? request.path == some location) = false := by
      simpa using met
    rw [passed]
    rfl

end History

/-- Staged outputs that share a file system. -/
structure Session where
  system : FileSystem
  outputs : List Output
  history : History := []

namespace Session

def start (system : FileSystem) : List Request → Except Fault Session
  | [] => .ok { system, outputs := [] }
  | request :: rest =>
      match Output.createStaged system request.path request.mode request.chance with
      | { system := _, result := .error fault } => .error fault
      | { system := created, result := .ok output } =>
          match start created rest with
          | .error fault => .error fault
          | .ok session => .ok { session with outputs := output :: session.outputs }

/-- One act on the output with an index; there may be none. -/
def call (session : Session) (index : Nat) (act : Output.Act) : Session :=
  match session.outputs[index]? with
  | none => session
  | some output =>
      let (step, count) := Output.perform session.system output act
      { system := step.system
        outputs := session.outputs.set index step.output
        history := { index, act, count, failure := step.failure } :: session.history }

def run (session : Session) (acts : List (Nat × Output.Act)) : Session :=
  acts.foldl (fun session (index, act) => session.call index act) session

end Session

theorem Mode.permissions_bits (mode : Nat) : permissions (bits mode) = permissions mode :=
  Nat.mod_mod_of_dvd mode (by decide)

theorem Mode.permissions_afterChange (mode : Nat) :
    permissions (afterChange mode) = permissions mode := by
  have whole : afterChange mode =
      mode - 512 * (mode / 2048 % 2 * 4 + mode / 1024 % 2 * (mode / 8 % 2) * 2) := by
    rw [afterChange]
    omega
  have runs : mode / 1024 % 2 * (mode / 8 % 2) ≤ mode / 1024 % 2 * 1 :=
    Nat.mul_le_mul_left _ (by omega)
  rw [permissions, permissions, whole, Nat.sub_mul_mod (by omega)]

theorem Mode.permissions_afterWrite (mode : Nat) (bytes : Bytes) :
    permissions (afterWrite mode bytes) = permissions mode := by
  unfold afterWrite
  split
  · rfl
  · exact permissions_afterChange mode

namespace Output

variable {system : FileSystem} {output : Output} {path : Bytes} {directory : Location}
  {number serial mode : Nat} {content : Bytes}

/-- What one act can do to an output that is not finished: it stays, it goes without a
trace, or it takes its place. -/
inductive Outcome (system : FileSystem) (output : Output) (path : Bytes) (directory : Location)
    (number serial : Nat) (content : Bytes) (mode : Nat) (act : Act) (step : Step) (count : Nat) :
    Prop where
  | stays (newMode : Nat) (going : act.finishes = false)
      (permitted : Mode.permissions newMode = Mode.permissions mode)
      (beside : Beside step.system step.output path directory number serial
        (content ++ act.accepted count) newMode)
      (others : ∀ location, location ≠ stagedAt path directory number →
        step.system.lookup? location = system.lookup? location)
      (working : step.system.working = system.working)
  | goes (finishes : act.finishes = true) (failed : act = .commit → step.failure.isSome)
      (settled : step.output = output.settled)
      (erased : step.system = system.erase (stagedAt path directory number))
  | replaces (place : Place) (committed : act = .commit) (succeeded : step.failure = none)
      (settled : step.output = output.settled) (nonempty : path ≠ [])
      (stepped : system.lastStep directory (Path.split path).2 = .ok place)
      (plain : ∀ location mode, place ≠ .taken location (.directory mode))
      (moved : step.system = (system.erase (stagedAt path directory number)).insert
        place.location (.file serial content mode))

theorem Beside.outcome (beside : Beside system output path directory number serial content mode)
    (act : Act) :
    Outcome system output path directory number serial content mode act
      (perform system output act).1 (perform system output act).2 := by
  cases act with
  | write bytes =>
      cases opened : output.file.isOpen with
      | true =>
          refine .stays _ rfl (Mode.permissions_afterWrite mode bytes) ?_ ?_ ?_
          · have whole : bytes.take (perform system output (.write bytes)).2 = bytes := by
              rw [perform, beside.write_eq opened, List.take_length]
            rw [Act.accepted, whole]
            exact beside.write opened bytes
          · exact fun location => beside.write_others opened bytes
          · rw [perform, beside.write_eq opened, FileSystem.store_working]
      | false =>
          obtain ⟨fault, refused⟩ := write_of_closed system opened bytes
          rw [perform, refused]
          refine .stays mode rfl rfl ?_ (fun _ _ => rfl) rfl
          rw [Act.accepted, List.take_zero, List.append_nil]
          exact beside
  | close =>
      refine .stays mode rfl rfl ?_ (fun _ _ => rfl) rfl
      have closed : (Output.close system output).output = output.closed := by
        change ({ output with file := output.file.close.1 } : Output) = output.closed
        rw [close_file]
        rfl
      rw [perform, Act.accepted, List.append_nil, closed]
      exact { beside with }
  | commit =>
      obtain ⟨settled, succeeded | ⟨failed, erased⟩⟩ := beside.commit_cases
      · obtain ⟨noFailure, place, nonempty, stepped, plain, moved⟩ := succeeded
        exact .replaces place rfl noFailure settled nonempty stepped plain moved
      · exact .goes rfl (fun _ => failed) settled erased
  | abort =>
      obtain ⟨erased, settled⟩ := beside.abort_eq
      exact .goes rfl (by simp) settled erased

/-- A finished output does nothing any more, and it cannot be committed again. -/
theorem perform_of_finished (system : FileSystem) (finished : output.finished = true)
    (shut : output.file.isOpen = false) (act : Act) :
    (perform system output act).1.system = system ∧
      (perform system output act).1.output = output ∧
      act.accepted (perform system output act).2 = [] ∧
      (act = .commit → (perform system output act).1.failure.isSome) := by
  cases act with
  | write bytes =>
      obtain ⟨fault, refused⟩ := write_of_closed system shut bytes
      simp [perform, refused, Act.accepted]
  | close => simp [perform, close, OpenFile.close, shut, Act.accepted]
  | commit => simp [perform, commit, finished, Act.accepted]
  | abort => simp [perform, abort, finished, Act.accepted]

end Output

end ImportSplice
