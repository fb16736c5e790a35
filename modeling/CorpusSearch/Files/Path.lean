-- Paths of files: a root and the names below it.
import CorpusSearch.Text.Basic

namespace CorpusSearch.Files

/-- A path. The root is empty for a path that starts at the working folder. -/
structure Path where
  root : Text := []
  names : List Text := []
  deriving DecidableEq, Repr, Inhabited

namespace Path

/-- The root at the start of a path: exactly two slashes are a root of their own, and any other
count of them is the plain root. -/
def rootOf : Text → Text
  | '/' :: '/' :: '/' :: _ => ['/']
  | '/' :: '/' :: _ => ['/', '/']
  | '/' :: _ => ['/']
  | _ => []

/-- The path that a text names. Empty names and single dots are passed over. -/
def ofText (text : Text) : Path :=
  { root := rootOf text
    names := (Text.splitAt (· == '/') text).filter fun name => !name.isEmpty && name != ['.'] }

/-- The text of a path; the working folder itself is a dot. -/
def text (path : Path) : Text :=
  if path.root.isEmpty && path.names.isEmpty then ['.']
  else path.root ++ Text.join ['/'] path.names

/-- The path without its last name. -/
def parent (path : Path) : Path := { path with names := path.names.dropLast }

/-- A path taken from another one; a path with a root stands for itself. -/
def join (path other : Path) : Path :=
  if other.root.isEmpty then { path with names := path.names ++ other.names } else other

/-- The path with the home folder in place of a first name that starts with a tilde, none when
`homes`, which lists users with their home folders, does not know the user. The user without a name
is the present one. -/
def expandHome? (homes : List (Text × Text)) (path : Path) : Option Path :=
  match path.root, path.names with
  | [], ('~' :: user) :: names =>
    (homes.lookup user).map fun home => (ofText home).join { names }
  | _, _ => some path

end Path

end CorpusSearch.Files
