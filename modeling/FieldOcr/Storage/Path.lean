import FieldOcr.Text.Split

/-!
# Paths

A path is a list of parts, taken from the root or from the working directory.
A single dot stands for the directory itself and two dots for the directory
that holds it.
-/

namespace FieldOcr
namespace Storage

/-- A path in parts. -/
structure Path where
  /-- Whether the path starts at the root. -/
  absolute : Bool
  /-- The parts between slashes that are not empty. -/
  parts : List String
  /-- Whether a slash stands behind the last part. -/
  trailingSlash : Bool
  deriving DecidableEq, Repr

namespace Path

/-- Splits the text of a path. -/
def ofString (text : String) : Path where
  absolute := text.toList.head? = some '/'
  parts :=
    ((Text.splitAll '/' text.toList).filter (!·.isEmpty)).map String.ofList
  trailingSlash := text.toList.getLast? = some '/'

/-- The parts without the dots that stand for the directory itself, except
for one in front of a relative path. -/
def names (path : Path) : List String :=
  match path.absolute, path.parts with
  | false, "." :: rest => "." :: rest.filter (· ≠ ".")
  | _, parts => parts.filter (· ≠ ".")

end Path

/-- Whether a text cannot name a file because it holds the character NUL. -/
def holdsNul (text : String) : Bool :=
  text.toList.contains '\x00'

/-- The greatest number of bytes of a part. -/
def nameLimit : Nat := 255

/-- The number of bytes from which on a path is too long. -/
def pathLimit : Nat := 4096

end Storage
end FieldOcr
