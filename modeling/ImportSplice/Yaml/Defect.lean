import ImportSplice.Text.Bytes

/-!
The ways in which a text can fail to be a document of settings.
-/

namespace ImportSplice.Yaml

inductive Defect where
  | badIndentation
  | missingColon
  | badScalar
  | badHeader
  | badEscape
  | badDirective
  | unclosed
  | unopened
  | emptyItem
  | missingComma
  | trailingText
  | badAnchor
  | unknownAnchor
  | tooDeep
  | duplicateName
  | brokenName
  | unknownName
  | wrongType
  deriving DecidableEq, Repr

def Defect.message : Defect → Bytes
  | badIndentation => ascii "a line is not indented like its neighbours"
  | missingColon => ascii "a name is not followed by a colon"
  | badScalar => ascii "a value cannot start or continue like this"
  | badHeader => ascii "a block scalar has a bad header"
  | badEscape => ascii "an escape is not known"
  | badDirective => ascii "a directive is not followed by a document"
  | unclosed => ascii "a quote or bracket is not closed"
  | unopened => ascii "a bracket is not opened"
  | emptyItem => ascii "an item between brackets is empty"
  | missingComma => ascii "a comma between brackets is missing"
  | trailingText => ascii "text follows a value"
  | badAnchor => ascii "an anchor has no name or no value"
  | unknownAnchor => ascii "a name that is referred to has no value"
  | tooDeep => ascii "values are nested too deeply"
  | duplicateName => ascii "a name is defined twice"
  | brokenName => ascii "a name goes on over a line break"
  | unknownName => ascii "a name is not known"
  | wrongType => ascii "a value has the wrong type"

end ImportSplice.Yaml
