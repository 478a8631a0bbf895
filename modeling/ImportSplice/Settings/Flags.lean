import ImportSplice.Settings.Record
import ImportSplice.Text.Quoted
import ImportSplice.Fault

/-!
The command line.  Flags and positional arguments mix freely up to `--`; letters
can be grouped behind one dash, and the last flag of a group may take a value.
-/

namespace ImportSplice

structure Flags where
  config : Bytes := []
  quiet : Bool := false
  verbose : Bool := false
  /-- The marker, if one was given, even an empty one. -/
  marker : Option Bytes := none
  /-- The modules of all import flags, if there was one. -/
  imports : Option (List Bytes) := none
  help : Bool := false
  version : Bool := false
  printConfig : Bool := false
  deriving DecidableEq, Repr

inductive Flag where
  | config
  | quiet
  | verbose
  | marker
  | imports
  | help
  | version
  | printConfig
  deriving DecidableEq, Repr

namespace Flag

def all : List Flag := [config, quiet, verbose, marker, imports, help, version, printConfig]

def name : Flag → Bytes
  | config => ascii "config"
  | quiet => ascii "quiet"
  | verbose => ascii "verbose"
  | marker => ascii "marker"
  | imports => ascii "import"
  | help => ascii "help"
  | version => ascii "version"
  | printConfig => ascii "print-config"

def letter? : Flag → Option UInt8
  | config => some 99
  | quiet => some 113
  | verbose => some 118
  | marker => some 109
  | imports => some 105
  | help => some 104
  | version => none
  | printConfig => none

/-- A switch stands by itself; the other flags need a value. -/
def isSwitch : Flag → Bool
  | quiet | verbose | help | version | printConfig => true
  | config | marker | imports => false

def ofName? (text : Bytes) : Option Flag := all.find? fun flag => flag.name == text

def ofLetter? (letter : UInt8) : Option Flag := all.find? fun flag => flag.letter? == some letter

def spelling (flag : Flag) : Bytes :=
  match flag.letter? with
  | some letter => 45 :: letter :: ascii ", --" ++ flag.name
  | none => ascii "--" ++ flag.name

end Flag

inductive FlagDefect where
  | badSpelling (argument : Bytes)
  | unknownName (name : Bytes)
  | unknownLetter (letter : UInt8) (rest : Bytes)
  | missingValue (argument : Bytes)
  | missingLetterValue (letter : UInt8)
  | badSwitch (flag : Flag) (value : Bytes)
  | badRecord (flag : Flag) (value : Bytes) (defect : Record.Defect)
  deriving DecidableEq, Repr

namespace FlagDefect

/-- How a letter is shown: a byte outside ASCII appears as the first byte of its
two-byte encoding. -/
def shownLetter (letter : UInt8) : Nat :=
  if letter < 0x80 then letter.toNat else 0xC0 + letter.toNat / 64

def invalidValue (flag : Flag) (value reason : Bytes) : Bytes :=
  ascii "invalid argument " ++ quoted value ++ ascii " for " ++ quoted flag.spelling ++
    ascii " flag: " ++ reason

def message : FlagDefect → Bytes
  | badSpelling argument => ascii "bad flag syntax: " ++ argument
  | unknownName name => ascii "unknown flag: --" ++ name
  | unknownLetter letter rest =>
      ascii "unknown shorthand flag: " ++ quotedChar (shownLetter letter) ++ ascii " in -" ++ rest
  | missingValue argument => ascii "flag needs an argument: " ++ argument
  | missingLetterValue letter =>
      ascii "flag needs an argument: " ++ quotedChar (shownLetter letter) ++ ascii " in -" ++
        [letter]
  | badSwitch flag value =>
      invalidValue flag value
        (ascii "strconv.ParseBool: parsing " ++ quoted value ++ ascii ": invalid syntax")
  | badRecord flag value defect => invalidValue flag value defect.message

def toFault (defect : FlagDefect) : Fault := .cite .usage (.text defect.message)

end FlagDefect

/-- The truth values that a switch can be given. -/
def readSwitch? (text : Bytes) : Option Bool :=
  if [ascii "1", ascii "t", ascii "T", ascii "TRUE", ascii "true", ascii "True"].contains text then
    some true
  else if [ascii "0", ascii "f", ascii "F", ascii "FALSE", ascii "false", ascii "False"].contains
      text then
    some false
  else none

namespace Flags

def turn (flags : Flags) (flag : Flag) (value : Bool) : Flags :=
  match flag with
  | .quiet => { flags with quiet := value }
  | .verbose => { flags with verbose := value }
  | .help => { flags with help := value }
  | .version => { flags with version := value }
  | .printConfig => { flags with printConfig := value }
  | .config | .marker | .imports => flags

/-- The modules that an import flag's value names. -/
def readModules (value : Bytes) : Except Record.Defect (List Bytes) :=
  if value.isEmpty then .ok [] else Record.read value

/-- The flags after one more value: texts are replaced, imports are added. -/
def set (flags : Flags) (flag : Flag) (value : Bytes) : Except FlagDefect Flags :=
  match flag with
  | .config => .ok { flags with config := value }
  | .marker => .ok { flags with marker := some value }
  | .imports =>
      match readModules value with
      | .ok modules => .ok { flags with imports := some (flags.imports.getD [] ++ modules) }
      | .error defect => .error (.badRecord flag value defect)
  | switch =>
      match readSwitch? value with
      | some setting => .ok (flags.turn switch setting)
      | none => .error (.badSwitch switch value)

/-- What a group of letters amounts to. -/
inductive Group where
  | done (flags : Flags)
  /-- The last letter takes the next argument as its value. -/
  | awaiting (flags : Flags) (flag : Flag) (letter : UInt8)

/-- Reads the letters behind one dash.  What starts with `test.` is left alone. -/
def readGroup (flags : Flags) : Bytes → Except FlagDefect Group
  | [] => .ok (.done flags)
  | letter :: rest =>
      if (ascii "test.").isPrefixOf (letter :: rest) then .ok (.done flags)
      else match Flag.ofLetter? letter with
        | none => .error (.unknownLetter letter (letter :: rest))
        | some flag =>
            match rest with
            | 61 :: first :: more => (flags.set flag (first :: more)).map .done
            | _ =>
                if flag.isSwitch then readGroup (flags.turn flag true) rest
                else if rest.isEmpty then .ok (.awaiting flags flag letter)
                else (flags.set flag rest).map .done

inductive Argument where
  | positional
  | terminator
  | malformed
  | long (name : Bytes) (value : Option Bytes)
  | letters (group : Bytes)

namespace Argument

def ofText : Bytes → Argument
  | [45, 45] => terminator
  | 45 :: 45 :: 45 :: _ => malformed
  | 45 :: 45 :: 61 :: _ => malformed
  | 45 :: 45 :: rest =>
      match Bytes.cutAt 61 rest with
      | some (name, value) => long name (some value)
      | none => long rest none
  | 45 :: letter :: rest => letters (letter :: rest)
  | _ => positional

end Argument

def before (argument : Bytes) (result : Flags × List Bytes) : Flags × List Bytes :=
  (result.1, argument :: result.2)

/-- Reads arguments from left to right on top of the flags read so far.  The
first defect ends the reading. -/
def readOnto (flags : Flags) : List Bytes → Except FlagDefect (Flags × List Bytes)
  | [] => .ok (flags, [])
  | argument :: rest =>
      match Argument.ofText argument with
      | .positional => (readOnto flags rest).map (before argument)
      | .terminator => .ok (flags, rest)
      | .malformed => .error (.badSpelling argument)
      | .long name value =>
          match Flag.ofName? name with
          | none => .error (.unknownName name)
          | some flag =>
              match value with
              | some text =>
                  match flags.set flag text with
                  | .ok next => readOnto next rest
                  | .error defect => .error defect
              | none =>
                  if flag.isSwitch then readOnto (flags.turn flag true) rest
                  else match rest with
                    | [] => .error (.missingValue argument)
                    | text :: more =>
                        match flags.set flag text with
                        | .ok next => readOnto next more
                        | .error defect => .error defect
      | .letters group =>
          match flags.readGroup group with
          | .error defect => .error defect
          | .ok (.done next) => readOnto next rest
          | .ok (.awaiting reached flag letter) =>
              match rest with
              | [] => .error (.missingLetterValue letter)
              | text :: more =>
                  match reached.set flag text with
                  | .ok next => readOnto next more
                  | .error defect => .error defect

/-- The flags and the positional arguments of a command line. -/
def read (arguments : List Bytes) : Except FlagDefect (Flags × List Bytes) :=
  readOnto {} arguments

end Flags

end ImportSplice
