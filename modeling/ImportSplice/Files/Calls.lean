import ImportSplice.Files.Walk

/-!
Opening, reading, writing, renaming and removing.
-/

namespace ImportSplice

/-- What an open file reads from and writes to. -/
inductive Channel where
  | file (location : Location) (serial : Nat)
  | directory
  | device (kind : Device)
  deriving DecidableEq, Repr

structure OpenFile where
  path : Bytes
  channel : Channel
  /-- Where the next byte is written. -/
  offset : Nat := 0
  isOpen : Bool := true
  deriving DecidableEq, Repr

namespace FileSystem

def openCall : Bytes := ascii "open"
def readCall : Bytes := ascii "read"
def writeCall : Bytes := ascii "write"
def closeCall : Bytes := ascii "close"
def removeCall : Bytes := ascii "remove"
def statusCall : Bytes := ascii "lstat"
def modeCall : Bytes := ascii "chmod"
def temporaryCall : Bytes := ascii "createtemp"

def openForReading (system : FileSystem) (path : Bytes) : Except Refusal OpenFile :=
  match system.find .followed path with
  | .error refusal => .error refusal
  | .ok (location, .file serial _ mode) =>
      if Mode.allowsReading mode then .ok { path, channel := .file location serial }
      else .error .accessDenied
  | .ok (_, .directory mode) =>
      if Mode.allowsReading mode then .ok { path, channel := .directory }
      else .error .accessDenied
  | .ok (_, .device .null) => .ok { path, channel := .device .null }
  | .ok (_, .device .full) => .error .accessDenied
  | .ok (_, .link _) => .error .tooManyLinks

/-- Opens what a path leads to for writing: a file is emptied, and a free name
becomes a new file. -/
def openForWriting (system : FileSystem) (path : Bytes) (mode : Nat) :
    Except Refusal (FileSystem × OpenFile) :=
  match system.resolve .created path with
  | .error refusal => .error refusal
  | .ok (.free location) =>
      if system.allowsChange location then
        let (created, serial) := system.create location (Mode.masked mode)
        .ok (created, { path, channel := .file location serial })
      else .error .accessDenied
  | .ok (.taken location (.file serial _ old)) =>
      if Mode.allowsWriting old then
        .ok (system.insert location (.file serial [] (Mode.afterChange old)),
          { path, channel := .file location serial })
      else .error .accessDenied
  | .ok (.taken _ (.directory _)) => .error .isDirectory
  | .ok (.taken _ (.device device)) => .ok (system, { path, channel := .device device })
  | .ok (.taken _ (.link _)) => .error .tooManyLinks

def createNew (system : FileSystem) (path : Bytes) (mode : Nat) :
    Except Refusal (FileSystem × OpenFile) :=
  match system.resolve .kept path with
  | .error refusal => .error refusal
  | .ok (.taken _ _) => .error .alreadyExists
  | .ok (.free location) =>
      if system.allowsChange location then
        let (created, serial) := system.create location (Mode.masked mode)
        .ok (created, { path, channel := .file location serial })
      else .error .accessDenied

/-- Gives an open file that is still in its place a mode. -/
def setMode (system : FileSystem) (file : OpenFile) (mode : Nat) : FileSystem :=
  match file.channel with
  | .file location serial =>
      match system.lookup? location with
      | some (.file found content _) =>
          if found == serial then system.insert location (.file found content (Mode.bits mode))
          else system
      | _ => system
  | .directory | .device _ => system

/-- The content of an open file that is still in its place. -/
def content (system : FileSystem) (location : Location) (serial : Nat) : Bytes :=
  match system.lookup? location with
  | some (.file found content _) => if found == serial then content else []
  | _ => []

def readAll (system : FileSystem) (file : OpenFile) : Except Fault Bytes :=
  match file.channel with
  | .file location serial => .ok (system.content location serial)
  | .directory => .error (.call readCall file.path .isDirectory)
  | .device .null => .ok []
  | .device .full => .error (.call readCall file.path .accessDenied)

/-- A content with bytes written at an offset; a hole before them is filled with
zeros. -/
def overwrite (content : Bytes) (offset : Nat) (bytes : Bytes) : Bytes :=
  content.take offset ++ List.replicate (offset - content.length) 0 ++ bytes ++
    content.drop (offset + bytes.length)

/-- Writes into the file at a location, if it is still the one meant. -/
def store (system : FileSystem) (location : Location) (serial offset : Nat) (bytes : Bytes) :
    FileSystem :=
  match system.lookup? location with
  | some (.file found content mode) =>
      if found == serial && !bytes.isEmpty then
        system.insert location
          (.file found (overwrite content offset bytes) (Mode.afterChange mode))
      else system
  | _ => system

structure Written where
  system : FileSystem
  file : OpenFile
  count : Nat
  failure : Option Fault

/-- Writes bytes where the last write ended. -/
def write (system : FileSystem) (file : OpenFile) (bytes : Bytes) : Written :=
  if !file.isOpen then
    { system, file, count := 0, failure := some (.call writeCall file.path .closed) }
  else
    let size := bytes.length
    match file.channel with
    | .file location serial =>
        { system := system.store location serial file.offset bytes,
          file := { file with offset := file.offset + size }, count := size, failure := none }
    | .device .null => { system, file, count := size, failure := none }
    | .device .full =>
        { system, file, count := 0, failure := some (.call writeCall file.path .noSpace) }
    | .directory =>
        { system, file, count := 0, failure := some (.call writeCall file.path .isDirectory) }

end FileSystem

def OpenFile.close (file : OpenFile) : OpenFile × Option Fault :=
  if file.isOpen then ({ file with isOpen := false }, none)
  else (file, some (.call FileSystem.closeCall file.path .closed))

namespace FileSystem

/-- Takes away the name that a path ends in. -/
def remove (system : FileSystem) (path : Bytes) : Except Refusal FileSystem :=
  match system.find .kept path with
  | .error refusal => .error refusal
  | .ok (location, entry) =>
      if !system.allowsChange location then .error .accessDenied
      else match entry with
        | .directory _ => .error .isDirectory
        | _ => .ok (system.erase location)

/-- Gives an entry the name that another path ends in, in place of what has it; a
directory keeps its name. -/
def rename (system : FileSystem) (old new : Bytes) : Except Refusal FileSystem :=
  match system.find .kept old with
  | .error refusal => .error refusal
  | .ok (source, entry) =>
      match system.resolve .kept new with
      | .error refusal => .error refusal
      | .ok (.taken _ (.directory _)) => .error .alreadyExists
      | .ok (.taken target _) | .ok (.free target) =>
          if !(system.allowsChange source && system.allowsChange target) then
            .error .accessDenied
          else if source == target then .ok system
          else .ok ((system.erase source).insert target entry)

end FileSystem

end ImportSplice
