import ImportSplice.Files.Calls
import ImportSplice.Files.Path

/-!
Building file systems by hand and listing them.
-/

namespace ImportSplice.FileSystem

/-- The location that a cleaned path names, seen from the working directory. -/
def locate (system : FileSystem) (path : Bytes) : Location :=
  let start := if Path.isAbsolute path then [] else system.working
  (names (Path.clean path)).foldl
    (fun location name =>
      if name.isEmpty || name == ascii "." then location
      else if name == ascii ".." then location.tail
      else name :: location)
    start

/-- Makes sure that a location is a directory, and those above it too. -/
def makeDirectories (system : FileSystem) : Location → FileSystem
  | [] => system
  | name :: above =>
      let made := makeDirectories system above
      match made.lookup? (name :: above) with
      | some _ => made
      | none => made.insert (name :: above) (.directory 0o755)

/-- Puts an entry at a location without asking for permission; a file gets a serial
number of its own. -/
def place (system : FileSystem) (location : Location) (entry : Entry) : FileSystem :=
  let prepared := system.makeDirectories location.tail
  match entry with
  | .file _ content mode =>
      let (created, serial) := prepared.create location mode
      created.insert location (.file serial content mode)
  | other => prepared.insert location other

/-- A directory with a mode; one that is there gets the mode in place of its own. -/
def putDirectory (system : FileSystem) (path : Bytes) (mode : Nat) :
    Except Refusal FileSystem :=
  match system.find .followed path with
  | .ok (location, .directory _) => .ok (system.insert location (.directory mode))
  | .ok _ => .error .notDirectory
  | .error _ =>
      .ok (system.place (system.locate path) (.directory mode))

/-- A file with a content and a mode; a file that is there gets them in place of
its own, if it may be written. -/
def putFile (system : FileSystem) (path content : Bytes) (mode : Nat) :
    Except Refusal FileSystem :=
  let prepared := system.makeDirectories (system.locate path).tail
  match prepared.openForWriting path 0o644 with
  | .error refusal => .error refusal
  | .ok (opened, file) =>
      match file.channel with
      | .file location serial => .ok (opened.insert location (.file serial content mode))
      | _ => .ok opened

/-- A link at a location that must be free. -/
def putLink (system : FileSystem) (location : Location) (target : Bytes) :
    Except Refusal FileSystem :=
  let prepared := system.makeDirectories location.tail
  match prepared.lookup? location with
  | some _ => .error .alreadyExists
  | none => .ok (prepared.insert location (.link target))

def isWithin (outer inner : Location) : Bool := outer.isSuffixOf inner

def removeTree (system : FileSystem) (location : Location) : FileSystem :=
  { system with entries := system.entries.filter fun pair => !isWithin location pair.1 }

/-- Everything below a directory, each with its path from there. -/
def listing (system : FileSystem) (directory : Location) : List (Bytes × Object) :=
  (system.entries.filter fun pair =>
      isWithin directory pair.1 && pair.1 != directory).map fun (location, entry) =>
    (Bytes.joinWith [Bytes.slash] (location.take (location.length - directory.length)).reverse,
      entry.shown)

/-- A file system that holds the two devices and an empty working directory. -/
def scratch (path : Bytes) : FileSystem :=
  let base : FileSystem :=
    { entries :=
        [([], .directory 0o555), ([ascii "dev"], .directory 0o555),
          ([ascii "null", ascii "dev"], .device .null),
          ([ascii "full", ascii "dev"], .device .full)] }
  let location := base.locate path
  { base.makeDirectories location with working := location }

end ImportSplice.FileSystem
