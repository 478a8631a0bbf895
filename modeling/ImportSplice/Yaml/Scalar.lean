import ImportSplice.Number.Spelling

/-!
Scalars of a YAML document.  A bare word can stand for nothing, a truth value or
a number and is then read as its normal spelling; any other text is read as it
is.
-/

namespace ImportSplice.Yaml

inductive Scalar where
  | bare (word : Bytes)
  | verbatim (text : Bytes)
  deriving DecidableEq, Repr

/-- The truth values and the values that no digits can spell, each with its
normal spelling. -/
def words : List (Bytes × Bytes) :=
  [("true", "true"), ("True", "true"), ("TRUE", "true"), ("false", "false"), ("False", "false"),
    ("FALSE", "false"), (".inf", "+Inf"), (".Inf", "+Inf"), (".INF", "+Inf"), ("-.inf", "-Inf"),
    ("-.Inf", "-Inf"), ("-.INF", "-Inf"), (".nan", "NaN"), (".NaN", "NaN"), (".NAN", "NaN")].map
    fun (word, spelling) => (ascii word, ascii spelling)

def nullWords : List Bytes := [[], ascii "~", ascii "null", ascii "Null", ascii "NULL"]

namespace Scalar

def nothing : Scalar := .bare []

/-- The text a scalar stands for; `none` if it stands for nothing. -/
def text? : Scalar → Option Bytes
  | .verbatim text => some text
  | .bare word =>
      if nullWords.contains word then none
      else match words.lookup word with
        | some spelling => some spelling
        | none =>
            match Number.read word with
            | .number number => some number.render
            | _ => some word

/-- Whether a scalar is a text rather than nothing, a truth value or a number. -/
def isText : Scalar → Bool
  | .verbatim _ => true
  | .bare word =>
      !nullWords.contains word && (words.lookup word).isNone &&
        match Number.read word with
        | .number _ => false
        | _ => true

def written : Scalar → Bytes
  | .bare word => word
  | .verbatim text => text

end Scalar

end ImportSplice.Yaml
