import SnippetSync.Scanner
import SnippetSync.Text.Lines

/-!
# Documents

* `Document` — a text with its annotated blocks.
* `Document.scan` — the document of a text, its blocks found by a scanner.
-/

namespace SnippetSync

/-- A text with its annotated blocks. -/
structure Document where
  text : Text
  /-- The blocks in the order in which they are to stand. -/
  blocks : List Block
  /-- The number under which messages refer to the document. -/
  id : Nat
  deriving Repr

def Document.scan (s : Scanner) (text : Text) (id : Nat) : Document := ⟨text, s.blocks text, id⟩

end SnippetSync
