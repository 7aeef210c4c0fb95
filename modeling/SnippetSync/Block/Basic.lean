import SnippetSync.Text.Basic

/-!
# Annotated blocks

A block is a stretch of a document that begins with an opening and ends with a closing fence. Its opening names the
source whose contents its body should hold.

* `Block` — the block and its parts.
* `Block.render` — the block as it reads with given contents.
* `Block.isCurrent` — the body holds these contents already.
-/

namespace SnippetSync

/-- The three backticks that open and close a block. -/
def fence : Text := "```"

/-- An annotated block of a document. Spans are offsets in the document. -/
structure Block where
  /-- The whole block, from its opening through its closing fence. -/
  span : Span
  /-- The opening with its line end. -/
  opening : Text
  language : Text
  /-- The path of the source. -/
  source : Text
  /-- Where the path stands. -/
  sourceSpan : Span
  /-- What stands between the opening and the closing fence. -/
  body : Text
  deriving DecidableEq, Repr, Inhabited

namespace Block

/-- The block with the given contents: opening, contents, a line feed and the closing fence. -/
def render (b : Block) (contents : Text) : Text := b.opening ++ contents ++ '\n' :: fence

/-- The body is the given contents and a line feed. -/
def isCurrent (b : Block) (contents : Text) : Bool := b.body == contents ++ ['\n']

theorem isCurrent_iff {b : Block} {contents : Text} : b.isCurrent contents ↔ b.body = contents ++ ['\n'] := by
  simp [isCurrent]

end Block

end SnippetSync
