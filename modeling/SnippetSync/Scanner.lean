import SnippetSync.Block.Scan
import SnippetSync.Pattern.Compile
import SnippetSync.Pattern.Search

/-!
# Scanners

A scanner finds the annotated blocks of a text: those of the standard form, or the matches of a block pattern.

* `Block.ofMatch?` — the block that a match tells, if all four parts took part in it.
* `Scanner` — the ways to find blocks, and `Scanner.blocks`, what they find.
-/

namespace SnippetSync

/-- The block that a match in the text tells. A match in which one of the parts took no part tells none. -/
def Block.ofMatch? (t : Text) (m : Match) : Option Block := do
  let sourceSpan ← m.fields.source
  return {
    span := m.span
    opening := ← t.slice? (← m.fields.opening)
    language := ← t.slice? (← m.fields.language)
    source := ← t.slice? sourceSpan
    sourceSpan
    body := ← t.slice? (← m.fields.body) }

/-- How the annotated blocks of a text are found. -/
inductive Scanner
  /-- By their standard form. -/
  | standard
  /-- As the matches of a block pattern. -/
  | pattern (p : Pattern)

/-- The annotated blocks of a text, in the order in which they stand. -/
def Scanner.blocks (s : Scanner) (t : Text) : List Block :=
  match s with
  | standard => t.blocks
  | pattern p => (p.program.findAll t).filterMap (Block.ofMatch? t)

end SnippetSync
