import ImportSplice.Text.Bytes

/-!
Paths as texts.  Nothing here looks at a file system: `clean` is the shortest
spelling of a path that means the same wherever no symbolic link is crossed.
-/

namespace ImportSplice.Path

def isAbsolute (path : Bytes) : Bool := path.head? == some Bytes.slash

/-- A name with a slash or a backslash in it is meant as a path. -/
def looksLikePath (text : Bytes) : Bool := text.contains Bytes.slash || text.contains 92

/-- The part of a path up to its last slash, and the part after it. -/
def split (path : Bytes) : Bytes × Bytes :=
  let base := (path.reverse.takeWhile (· != Bytes.slash)).reverse
  (path.take (path.length - base.length), base)

def current : Bytes := ascii "."
def parent : Bytes := ascii ".."

/-- One more name on a cleaned path, which is kept back to front. -/
def cleanStep (absolute : Bool) (kept : List Bytes) (name : Bytes) : List Bytes :=
  if name.isEmpty || name == current then kept
  else if name == parent then
    match kept with
    | [] => if absolute then [] else [parent]
    | last :: before => if last == parent then parent :: kept else before
  else name :: kept

/-- A path without empty names, without `.`, and without a name before `..`. -/
def clean (path : Bytes) : Bytes :=
  let absolute := isAbsolute path
  let names := ((Bytes.splitOn Bytes.slash path).foldl (cleanStep absolute) []).reverse
  let text := Bytes.joinWith [Bytes.slash] names
  if absolute then Bytes.slash :: text else if text.isEmpty then current else text

def directory (path : Bytes) : Bytes := clean (split path).1

/-- A path below a directory, cleaned. -/
def join (names : List Bytes) : Bytes := clean (Bytes.joinWith [Bytes.slash] names)

end ImportSplice.Path
