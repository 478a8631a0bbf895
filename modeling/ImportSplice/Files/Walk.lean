import ImportSplice.Files.System

/-!
From paths to locations.  Every directory that is crossed must allow it, links on
the way are followed, and the last name may be free.
-/

namespace ImportSplice

/-- Where a path leads: to an entry, or to a free name in a directory. -/
inductive Place where
  | taken (location : Location) (entry : Entry)
  | free (location : Location)
  deriving DecidableEq, Repr

/-- What a walk does with the last name of a path. -/
inductive LastName where
  | kept
  | followed
  /-- A link is followed, and a free name is going to be a file: no slash may come
  after it. -/
  | created
  deriving DecidableEq, Repr

namespace FileSystem

def maxNameLength : Nat := 255
def maxPathLength : Nat := 4095
def maxLinks : Nat := 40

/-- The names of a path between its slashes.  An empty name asks for a directory
and stays in it. -/
def names (path : Bytes) : List Bytes := Bytes.splitOn Bytes.slash path

/-- Where the names of a path start, seen from a directory. -/
def origin (directory : Location) (path : Bytes) : Location :=
  if path.head? == some Bytes.slash then [] else directory

/-- Goes down names from a directory.  At a link, `jump` goes on from the names
that the link stands for. -/
def descend (system : FileSystem) (last : LastName)
    (jump : Location → List Bytes → Except Refusal Place) (here : Location) :
    List Bytes → Except Refusal Place
  | [] =>
      match system.lookup? here with
      | some entry => .ok (.taken here entry)
      | none => .error .noEntry
  | name :: rest =>
      match system.lookup? here with
      | none => .error .noEntry
      | some (.directory mode) =>
          if name.isEmpty then descend system last jump here rest
          else if !Mode.allowsSearch mode then .error .accessDenied
          else if name == ascii "." then descend system last jump here rest
          else if name == ascii ".." then descend system last jump here.tail rest
          else if last == .created && !rest.isEmpty && rest.all (·.isEmpty) then
            .error .isDirectory
          else if name.length > maxNameLength then .error .nameTooLong
          else
            match system.lookup? (name :: here) with
            | none => if rest.isEmpty then .ok (.free (name :: here)) else .error .noEntry
            | some (.link target) =>
                if rest.isEmpty && last == .kept then .ok (.taken (name :: here) (.link target))
                else jump (origin here target) (names target ++ rest)
            | some _ => descend system last jump (name :: here) rest
      | some _ => .error .notDirectory

/-- Goes down names over at most a number of links. -/
def walk (system : FileSystem) (last : LastName) :
    (links : Nat) → Location → List Bytes → Except Refusal Place
  | 0 => descend system last fun _ _ => .error .tooManyLinks
  | links + 1 => descend system last (walk system last links)

def resolve (system : FileSystem) (last : LastName) (path : Bytes) : Except Refusal Place :=
  if path.contains 0 then .error .invalidArgument
  else if path.isEmpty then .error .noEntry
  else if path.length > maxPathLength then .error .nameTooLong
  else walk system last maxLinks (origin system.working path) (names path)

def find (system : FileSystem) (last : LastName) (path : Bytes) :
    Except Refusal (Location × Entry) :=
  match system.resolve last path with
  | .ok (.taken location entry) => .ok (location, entry)
  | .ok (.free _) => .error .noEntry
  | .error refusal => .error refusal

/-- Whether the directory of a location lets names in it be changed. -/
def allowsChange (system : FileSystem) (location : Location) : Bool :=
  match system.lookup? location.tail with
  | some (.directory mode) => Mode.allowsWriting mode
  | _ => false

def directoryExists (system : FileSystem) (path : Bytes) : Bool :=
  match system.find .followed path with
  | .ok (_, .directory _) => true
  | _ => false

/-- Whether a path leads to something other than a directory. -/
def fileExists (system : FileSystem) (path : Bytes) : Bool :=
  match system.find .followed path with
  | .ok (_, .directory _) => false
  | .ok _ => true
  | .error _ => false

end FileSystem

end ImportSplice
