import SnippetSync.Text.Basic

/-!
# Lines

A line feed ends a line. Lines are numbered from one.

* `Text.lineOf?` — the number of the line on which an offset falls; offsets past the end count as the end, and an
  offset inside a character has no line.
* `Text.lines` — the lines of a text without their line feeds.
-/

namespace SnippetSync.Text

/-- The number of the line that begins after the text `t`. -/
def lineAfter (t : Text) : Nat := t.count '\n' + 1

/-- The number of the line on which a byte offset falls, if it is not inside a character. -/
def lineOf? (t : Text) (offset : Nat) : Option Nat :=
  (cut? t (min offset (byteLength t))).map fun p => lineAfter p.1

theorem lineOf?_append (u v : Text) : lineOf? (u ++ v) (byteLength u) = some (lineAfter u) := by
  simp [lineOf?]

/-- The lines of a text, the last one being what follows the last line feed. -/
def lines : Text → List Text
  | [] => [[]]
  | c :: t =>
    if c = '\n' then [] :: lines t
    else match lines t with
      | [] => [[c]]
      | l :: ls => (c :: l) :: ls

end SnippetSync.Text
