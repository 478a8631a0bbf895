import ImportSplice.Yaml.Defect
import ImportSplice.Yaml.Token.Cursor

/-!
Texts in quotes.  The blanks around a line break are dropped; the first line break
stands for a space and each one that follows it at once for a newline.
-/

namespace ImportSplice.Yaml

/-- A text in quotes that has been read, and what follows it. -/
structure Quotation where
  cursor : Cursor
  value : List Char
  spelling : List Char
  rest : List Char

namespace Quotation

/-- A reversed text with a line break after it; `folding` says that only blanks
came since the last one. -/
def breakLine (folding : Bool) (value : List Char) : List Char :=
  (if folding then '\n' else ' ') :: value.dropWhile (· == ' ')

/-- Whether a tab at the front of a line stands where only blanks may. -/
def isTabIndent (cursor : Cursor) : Bool := cursor.delimiter ≥ cursor.column

/-- Reads up to the closing single quote; two of them stand for one.  `fresh` says
that the cursor already stands on the next character. -/
def single (cursor : Cursor) (value spelling : List Char) (folding fresh : Bool) :
    List Char → Except Defect Quotation
  | [] => .error .unclosed
  | c :: rest =>
      let here := if fresh then cursor else cursor.advance 1
      let spelled := c :: spelling
      if isBreak c then
        if startsWithDocumentMark rest then .error .unclosed
        else single here.nextLine (breakLine folding value) spelled true true rest
      else if folding && c == ' ' then single here value spelled true false rest
      else if folding && c == '\t' then
        if isTabIndent here then .error .badIndentation
        else single here value spelled true false rest
      else if c != '\x27' then single here (c :: value) spelled false false rest
      else match rest with
        | '\x27' :: more =>
            single (here.advance 1) (c :: value) (c :: spelled) folding false more
        | _ =>
            .ok { cursor := here.advance 1, value := value.reverse, spelling := spelled, rest }

/-- The value of a hexadecimal digit.  Other characters count by their distance
from zero. -/
def hexDigit (c : Char) : Int :=
  if 'A' ≤ c && c ≤ 'F' then c.toNat - 55
  else if 'a' ≤ c && c ≤ 'f' then c.toNat - 87
  else c.toNat - 48

def hexNumber (digits : List Char) : Int :=
  digits.foldl (fun value c => 16 * value + hexDigit c) 0

/-- The character with a code of 32 bits, or the replacement character. -/
def character (code : Int) : Char :=
  let point := (code % 0x100000000).toNat
  if point > 0x10FFFF || (0xD800 ≤ point && point ≤ 0xDFFF) then Char.ofNat 0xFFFD
  else Char.ofNat point

/-- What a backslash and the characters after it stand for. -/
inductive Escape where
  /-- A character, written with a number of characters after the backslash. -/
  | char (c : Char) (width : Nat)
  /-- Nothing: the next line is joined to this one. -/
  | joint (width : Nat)

/-- A character given by a number of hexadecimal digits; where the whole text is
too short for them, the letter stands for itself. -/
def hexEscape (letter : Char) (width : Nat) (rest : List Char) : Escape :=
  let digits := rest.take width
  if digits.length < width then .char letter 1
  else .char (character (hexNumber digits)) (width + 1)

/-- A character of four hexadecimal digits, or of two such escapes that form a
surrogate pair. -/
def unicodeEscape (rest : List Char) : Except Defect Escape :=
  let digits := rest.take 4
  let high := hexNumber digits
  if digits.length < 4 then .ok (.char 'u' 1)
  else if high < 0xD800 || high > 0xDBFF then .ok (.char (character high) 5)
  else
    match rest.drop 4 with
    | '\\' :: 'u' :: more =>
        let low := hexNumber (more.take 4)
        if (more.take 4).length < 4 || low < 0xDC00 || low > 0xDFFF then .error .badEscape
        else
          .ok (.char (character (0x10000 + (high - 0xD800) * 0x400 + (low - 0xDC00))) 11)
    | _ => .error .badEscape

/-- Letters that stand for one character after a backslash. -/
def letters : List (Char × Nat) :=
  [('0', 0x00), ('a', 0x07), ('b', 0x08), ('t', 0x09), ('\t', 0x09), ('n', 0x0A), ('v', 0x0B),
    ('f', 0x0C), ('r', 0x0D), ('e', 0x1B), (' ', 0x20), ('\x22', 0x22), ('/', 0x2F),
    ('\\', 0x5C), ('N', 0x85), ('_', 0xA0), ('L', 0x2028), ('P', 0x2029)]

def escape : List Char → Except Defect Escape
  | [] => .error .unclosed
  | '\n' :: _ => .ok (.joint 1)
  | '\r' :: '\n' :: _ => .ok (.joint 2)
  | '\r' :: _ => .ok (.joint 1)
  | 'x' :: rest => .ok (hexEscape 'x' 2 rest)
  | 'u' :: rest => unicodeEscape rest
  | 'U' :: rest => .ok (hexEscape 'U' 8 rest)
  | letter :: _ =>
      match letters.lookup letter with
      | some point => .ok (.char (Char.ofNat point) 1)
      | none => .error .badEscape

def afterJoint (cursor : Cursor) (next : Char) (width : Nat) : Cursor :=
  if next == '\n' then cursor.nextLine else cursor.nextLine.advance width

/-- Reads up to the closing double quote; `skip` characters have been dealt with
already. -/
def double (cursor : Cursor) (value spelling : List Char) (folding fresh : Bool) (skip : Nat) :
    List Char → Except Defect Quotation
  | [] => .error .unclosed
  | c :: rest =>
      let spelled := c :: spelling
      match skip with
      | skip + 1 => double cursor value spelled folding fresh skip rest
      | 0 =>
          let here := if fresh then cursor else cursor.advance 1
          if isBreak c then
            if startsWithDocumentMark rest then .error .unclosed
            else double here.nextLine (breakLine folding value) spelled true true 0 rest
          else if folding && c == ' ' then double here value spelled true false 0 rest
          else if folding && c == '\t' then
            if isTabIndent here then .error .badIndentation
            else double here value spelled true false 0 rest
          else if c == '\\' then
            match escape rest with
            | .error defect => .error defect
            | .ok (.char escaped width) =>
                double (here.advance width) (escaped :: value) spelled false false width rest
            | .ok (.joint width) =>
                double (afterJoint here (rest.headD '\n') width) value spelled true true width rest
          else if c == '\t' then
            let blanks := rest.takeWhile isGap
            match rest.dropWhile isGap with
            | [] => .error .unclosed
            | next :: _ =>
                let kept := if isBreak next then value else blanks.reverse ++ c :: value
                double (here.advance blanks.length) kept spelled false false blanks.length rest
          else if c == '\x22' then
            .ok { cursor := here.advance 1, value := value.reverse, spelling := spelled, rest }
          else double here (c :: value) spelled false false 0 rest

end Quotation

end ImportSplice.Yaml
