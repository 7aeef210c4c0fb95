import SnippetSync.Text.Basic

/-!
# Paths

A path names its components from left to right, slashes between them. It is absolute if it begins with a slash.

* `Path` — paths as they are written.
* `Path.join` — a path as seen from a base directory.
* `Path.components` — the components; a slash at the end counts as a component that stays where it is.
-/

namespace SnippetSync

abbrev Path := Text

namespace Path

def isAbsolute (p : Path) : Bool := p.head? == some '/'

def endsInSlash (p : Path) : Bool := p.getLast? == some '/'

/-- The path as seen from a base. An absolute path needs none, and an empty base is the working directory. -/
def join (base p : Path) : Path :=
  if p.isAbsolute || base.isEmpty then p
  else if base.endsInSlash then base ++ p
  else base ++ '/' :: p

@[simp] theorem join_nil (p : Path) : join [] p = p := by simp [join]

/-- The pieces of a text between slashes, as long as they are not empty. -/
def pieces (p : Path) : List Text := (p.splitOnP (· == '/')).filter (!·.isEmpty)

/-- The components of a path that lead to what it names. -/
def components (p : Path) : List Text := if p.endsInSlash then p.pieces ++ [['.']] else p.pieces

end Path

end SnippetSync
