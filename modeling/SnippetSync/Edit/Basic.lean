import SnippetSync.Text.Basic

/-!
# Edits

An edit replaces a span of a text. It is refused for one of three causes.

* `Edit` — a span and what takes its place.
* `Refusal` — why an edit cannot be made, with its wording `Refusal.message`.
-/

namespace SnippetSync

structure Edit where
  span : Span
  replacement : Text
  deriving DecidableEq, Repr, Inhabited

/-- Why an edit is refused. -/
inductive Refusal
  | inverted (span : Span)
  /-- The span ends after `floor`, where the replaced part of the text or the end of the text begins. -/
  | pastFloor (span : Span) (floor : Nat)
  /-- The offset, an end of the span, is inside a character. -/
  | insideCharacter (offset : Nat)
  deriving DecidableEq, Repr

def Refusal.message : Refusal → Text
  | inverted s => Text.concat ["edit span ", s.text, " is inverted"]
  | pastFloor s floor =>
    Text.concat ["edit ", s.text, " overlaps or follows text that was already replaced (limit ", Text.ofNat floor, ")"]
  | insideCharacter o => Text.concat ["offset ", Text.ofNat o, " is not on a character boundary"]

end SnippetSync
