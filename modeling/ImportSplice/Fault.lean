import ImportSplice.Text.Bytes

/-!
What can go wrong.  A fault is a tree: contexts are put around causes, and a
cause stays visible through its contexts unless it was hidden on purpose.
`message` is the wording and `shows` says what a fault can be recognised as;
neither looks at the other.
-/

namespace ImportSplice

/-- What a fault can be recognised as. -/
inductive Kind where
  | fileAccess
  | invalidMarker
  | readInput
  | writeOutput
  | usage
  | configNotFound
  | emptyConfigName
  | configParse
  | fieldTooLong
  | invalidField
  | emptyInput
  | noDestination
  | inputTooLarge
  | alreadyFinished
  | notExist
  | permission
  | exist
  | closed
  | noProgress
  | shortWrite
  | unexpectedEnd
  deriving DecidableEq, Repr

namespace Kind

def text : Kind → Bytes
  | fileAccess => ascii "file access failed"
  | invalidMarker => ascii "marker must be a single non-empty line"
  | readInput => ascii "reading input"
  | writeOutput => ascii "writing output"
  | usage => ascii "invalid usage"
  | configNotFound => ascii "config file not found"
  | emptyConfigName => ascii "config name cannot be empty"
  | configParse => ascii "failed to parse config"
  | fieldTooLong => ascii "field exceeds maximum length"
  | invalidField => ascii "invalid config field"
  | emptyInput => ascii "yamlutil: empty input"
  | noDestination => ascii "yamlutil: nil destination pointer"
  | inputTooLarge => ascii "yamlutil: input exceeds maximum size"
  | alreadyFinished => ascii "atomic file already committed or aborted"
  | notExist => ascii "file does not exist"
  | permission => ascii "permission denied"
  | exist => ascii "file already exists"
  | closed => ascii "file already closed"
  | noProgress => ascii "multiple Read calls return no data or error"
  | shortWrite => ascii "short write"
  | unexpectedEnd => ascii "unexpected EOF"

def all : List Kind :=
  [fileAccess, invalidMarker, readInput, writeOutput, usage, configNotFound, emptyConfigName,
    configParse, fieldTooLong, invalidField, emptyInput, noDestination, inputTooLarge,
    alreadyFinished, notExist, permission, exist, closed, noProgress, shortWrite, unexpectedEnd]

end Kind

/-- Why the system refused a call. -/
inductive Refusal where
  | noEntry
  | accessDenied
  | notPermitted
  | notDirectory
  | isDirectory
  | alreadyExists
  | notEmpty
  | nameTooLong
  | tooManyLinks
  | noSpace
  | invalidArgument
  | busy
  | closed
  /-- Every name that was tried is taken. -/
  | taken
  deriving DecidableEq, Repr

namespace Refusal

def text : Refusal → Bytes
  | noEntry => ascii "no such file or directory"
  | accessDenied => ascii "permission denied"
  | notPermitted => ascii "operation not permitted"
  | notDirectory => ascii "not a directory"
  | isDirectory => ascii "is a directory"
  | alreadyExists => ascii "file exists"
  | notEmpty => ascii "directory not empty"
  | nameTooLong => ascii "file name too long"
  | tooManyLinks => ascii "too many levels of symbolic links"
  | noSpace => ascii "no space left on device"
  | invalidArgument => ascii "invalid argument"
  | busy => ascii "device or resource busy"
  | closed => ascii "file already closed"
  | taken => ascii "file already exists"

def kind? : Refusal → Option Kind
  | noEntry => some .notExist
  | accessDenied | notPermitted => some .permission
  | alreadyExists | notEmpty | taken => some .exist
  | closed => some .closed
  | _ => none

end Refusal

/-- The step of a file conversion that failed. -/
inductive Stage where
  | openInput
  | readInput
  | createOutput
  | writeOutput
  | commitOutput
  | other (name : Bytes)
  deriving DecidableEq, Repr

namespace Stage

def text : Stage → Bytes
  | openInput => ascii "open input"
  | readInput => ascii "read input"
  | createOutput => ascii "create output"
  | writeOutput => ascii "write output"
  | commitOutput => ascii "commit output"
  | other name => name

def all : List Stage := [openInput, readInput, createOutput, writeOutput, commitOutput]

def ofText (name : Bytes) : Stage :=
  (all.find? fun stage => stage.text == name).getD (other name)

end Stage

inductive Fault where
  /-- A kind and nothing else. -/
  | kind (kind : Kind)
  /-- Words that are recognised as nothing. -/
  | text (words : Bytes)
  /-- A cause under a kind; both are visible. -/
  | cite (kind : Kind) (cause : Fault)
  /-- A visible cause after some words. -/
  | within (context : Bytes) (cause : Fault)
  /-- Only the words of a cause, after other words. -/
  | hidden (context : Bytes) (cause : Fault)
  | both (first second : Fault)
  /-- A failed stage of a conversion, on one of its two paths. -/
  | fileAccess (stage : Stage) (path : Bytes) (cause : Fault)
  /-- A named configuration that is in none of the places searched. -/
  | notFound (name : Bytes) (tried : List Bytes)
  /-- A refused system call on a path. -/
  | call (operation path : Bytes) (refusal : Refusal)
  | rename (old new : Bytes) (refusal : Refusal)
  deriving DecidableEq, Repr

namespace Fault

def colon : Bytes := ascii ": "

def message : Fault → Bytes
  | kind shown => shown.text
  | text words => words
  | cite shown cause => shown.text ++ colon ++ cause.message
  | within context cause => context ++ colon ++ cause.message
  | hidden context cause => context ++ colon ++ cause.message
  | both first second => first.message ++ [Bytes.newline] ++ second.message
  | fileAccess stage path cause => stage.text ++ ascii " " ++ path ++ colon ++ cause.message
  | notFound name tried =>
      Kind.configNotFound.text ++ colon ++ name ++ ascii " (tried " ++
        Bytes.joinWith (ascii ", ") tried ++ ascii ")"
  | call operation path refusal => operation ++ ascii " " ++ path ++ colon ++ refusal.text
  | rename old new refusal =>
      ascii "rename " ++ old ++ ascii " " ++ new ++ colon ++ refusal.text

def shows (wanted : Kind) : Fault → Bool
  | kind shown => shown == wanted
  | text _ => false
  | cite shown cause => shown == wanted || cause.shows wanted
  | within _ cause => cause.shows wanted
  | hidden _ _ => false
  | both first second => first.shows wanted || second.shows wanted
  | fileAccess _ _ cause => wanted == .fileAccess || cause.shows wanted
  | notFound _ _ => wanted == .configNotFound
  | call _ _ refusal => refusal.kind? == some wanted
  | rename _ _ refusal => refusal.kind? == some wanted

/-- The first failed stage that is visible in a fault, with its path. -/
def failedStage? : Fault → Option (Stage × Bytes)
  | cite _ cause => cause.failedStage?
  | within _ cause => cause.failedStage?
  | both first second => first.failedStage? <|> second.failedStage?
  | fileAccess stage path _ => some (stage, path)
  | _ => none

/-- The first fruitless search that is visible in a fault: the name and the
places searched. -/
def search? : Fault → Option (Bytes × List Bytes)
  | cite _ cause => cause.search?
  | within _ cause => cause.search?
  | both first second => first.search? <|> second.search?
  | fileAccess _ _ cause => cause.search?
  | notFound name tried => some (name, tried)
  | _ => none

/-- All faults of a list as one; none if there is none. -/
def join : List (Option Fault) → Option Fault
  | [] => none
  | none :: rest => join rest
  | some fault :: rest =>
      match join rest with
      | none => some fault
      | some others => some (both fault others)

end Fault

end ImportSplice
