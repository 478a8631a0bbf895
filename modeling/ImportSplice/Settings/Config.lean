import ImportSplice.Source.Injector

/-!
The two settings of a conversion and what they must satisfy.
-/

namespace ImportSplice

structure Config where
  marker : Bytes := defaultMarker
  imports : List Bytes := defaultImports
  deriving DecidableEq, Repr

namespace Config

def maxMarkerLength : Nat := 256
def maxModuleLength : Nat := 256
def maxModules : Nat := 64

/-- A field whose value is not acceptable, and why. -/
def invalid (field reason : Bytes) : Fault :=
  .cite .invalidField (.text (field ++ ascii ": " ++ reason))

def checkLength (field value : Bytes) (limit : Nat) : Except Fault Unit :=
  if value.length > limit then
    .error (.cite .fieldTooLong (.text (field ++ ascii " (" ++ Bytes.decimal value.length ++
      ascii " chars, max " ++ Bytes.decimal limit ++ ascii ")")))
  else .ok ()

/-- A marker is judged without the white space around it. -/
def checkMarker (padded : Bytes) : Except Fault Unit :=
  let marker := trim isBlank padded
  if marker.isEmpty then .error (invalid (ascii "marker") (ascii "must not be empty"))
  else if marker.contains Bytes.carriageReturn || marker.contains Bytes.newline then
    .error (invalid (ascii "marker") (ascii "must be a single line"))
  else checkLength (ascii "marker") marker maxMarkerLength

/-- A module name stands on one line and is not empty. -/
def checkModule (index : Nat) (name : Bytes) : Except Fault Unit :=
  let field := ascii "imports[" ++ Bytes.decimal index ++ ascii "]"
  if name.isEmpty then .error (invalid field (ascii "must not be empty"))
  else if hasBlank name then
    .error (invalid field (ascii "module name " ++ quoted name ++ ascii " contains whitespace"))
  else checkLength field name maxModuleLength

/-- Modules are judged in order, so the first bad one is named. -/
def checkModules (index : Nat) : List Bytes → Except Fault Unit
  | [] => .ok ()
  | name :: rest =>
      match checkModule index name with
      | .ok () => checkModules (index + 1) rest
      | .error fault => .error fault

def validate (config : Config) : Except Fault Unit :=
  match checkMarker config.marker with
  | .error fault => .error fault
  | .ok () =>
      if config.imports.length > maxModules then
        .error (invalid (ascii "imports") (Bytes.decimal config.imports.length ++
          ascii " modules (max " ++ Bytes.decimal maxModules ++ ascii ")"))
      else checkModules 0 config.imports

def choices (config : Config) : List Choice :=
  [.marker config.marker, .imports config.imports]

end Config

end ImportSplice
