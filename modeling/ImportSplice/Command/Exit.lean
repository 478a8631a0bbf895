import ImportSplice.Fault

/-!
The exit status of the command for a fault.
-/

namespace ImportSplice

inductive Exit where
  | success
  | general
  | usage
  | fileAccess
  deriving DecidableEq, Repr

namespace Exit

def code : Exit → Nat
  | success => 0
  | general => 1
  | usage => 2
  | fileAccess => 3

/-- Kinds that mean that a file could not be read or written. -/
def transferKinds : List Kind := [.fileAccess, .readInput, .writeOutput]

/-- Kinds that mean that the command was asked for something impossible. -/
def requestKinds : List Kind :=
  [.usage, .invalidMarker, .configNotFound, .emptyConfigName, .configParse, .fieldTooLong,
    .invalidField]

/-- Kinds of a configuration file that is there and cannot be read. -/
def systemKinds : List Kind := [.notExist, .permission]

def ofFault (fault : Fault) : Exit :=
  if transferKinds.any fault.shows then fileAccess
  else if requestKinds.any fault.shows then usage
  else if systemKinds.any fault.shows then fileAccess
  else general

def ofOutcome : Option Fault → Exit
  | none => success
  | some fault => ofFault fault

end Exit

end ImportSplice
