import SnippetSync.Text.Columns
import SnippetSync.Text.Lines

/-!
# Diagnostics

A diagnostic shows a message and the stretch of a document that it is about. A stretch within one line is underlined;
one over several lines has a bracket at its left, and of many lines only the first and the last ones are shown.

* `Diagnostic` — a severity, a message, the span and a note on it.
* `Diagnostic.render` — the lines that show it.
-/

namespace SnippetSync

inductive Severity
  | error
  | warning
  deriving DecidableEq, Repr

def Severity.word : Severity → Text
  | error => "error"
  | warning => "warning"

/-- A message about a span of a document. -/
structure Diagnostic where
  severity : Severity
  message : Text
  span : Span
  /-- What is said beside the span; empty for nothing. -/
  note : Text
  deriving Repr

namespace Diagnostic

/-- Where an offset falls: the number of its line, and what stands before it on this line. -/
structure Place where
  line : Nat
  left : Text
  deriving Repr

def Place.after (t : Text) : Place := ⟨Text.lineAfter t, (Text.lines t).getLast?.getD []⟩

/-- The place of an offset on a character boundary. -/
def place? (t : Text) (offset : Nat) : Option Place := (t.cut? offset).map fun p => Place.after p.1

/-- The characters that do not count at the end of a line. -/
def isTrailing (c : Char) : Bool := c == '\n' || c == '\r' || c == '\x00'

def shown (line : Text) : Text := (line.reverse.dropWhile isTrailing).reverse

/-- The last lines of a stretch that are shown. -/
def closingLines : Nat := 2

/-- The first lines of a stretch that are shown. -/
def openingLines : Nat := 4

/-- The layout of the lines of a diagnostic: the width of the column of line numbers. -/
structure Layout where
  width : Nat

namespace Layout

/-- A line of the snippet with what stands left of its bar, aligned to the right. -/
def row (l : Layout) (head : Text) (bar : Text) (tail : Text) : Text :=
  Text.concat [List.replicate (l.width - head.length) ' ', head, " ", bar, tail, "\n"]

def numbered (l : Layout) (n : Nat) (margin line : Text) : Text :=
  l.row (Text.ofNat n) "│ " (margin ++ Text.expandTabs 0 (shown line))

/-- The marks under a stretch of one line, and the note. -/
def underline (l : Layout) (left inside line note : Text) : Text :=
  let visible := shown line
  let column := Text.columns left
  let within := visible.drop left.length |>.take inside.length
  let beyond := if visible.length < left.length + inside.length then 1 else 0
  let carets := Text.columnsFrom column within + beyond
  let note := if note.isEmpty then [] else ' ' :: note
  l.row [] "│ " (List.replicate column ' ' ++ List.replicate carets '^' ++ note)

/-- The foot of the bracket beside a stretch, a caret under its last character. -/
def foot (l : Layout) (corner : Text) (columns : Nat) (note : Text) : Text :=
  l.row [] "│ " (corner ++ List.replicate columns '─' ++ '^' :: if note.isEmpty then [] else ' ' :: note)

def oneLine (l : Layout) (n : Nat) (left inside line note : Text) : Text :=
  l.row [] "│" [] ++ l.numbered n [] line ++ l.underline left inside line note

/-- The first line of a stretch over several lines. The bracket begins beside it if only white space stands before it,
and otherwise below it. -/
def firstLine (l : Layout) (n : Nat) (left line : Text) : Text :=
  if left.all Text.isBlank then l.numbered n "╭ " line
  else l.numbered n "  " line ++ l.foot "╭" (Text.columns (line.take (left.length + 1))) []

/-- The lines of a stretch after the first one, the first of them being number `n`. Two or more lines between those
shown at the beginning and those at the end are left out. -/
def innerLines (l : Layout) (n : Nat) (lines : List Text) : Text :=
  let opening := openingLines - 1
  let hidden := lines.length - opening - closingLines
  let rows := lines.zipIdx n |>.map fun p => l.numbered p.2 "│ " p.1
  if hidden ≤ 1 then rows.flatten
  else (rows.take opening).flatten ++ l.row [] "·" " │" ++ (rows.drop (opening + hidden)).flatten

def severalLines (l : Layout) (n : Nat) (left : Text) (lines : List Text) (last note : Text) : Text :=
  match lines with
  | [] => []
  | first :: inner =>
    l.row [] "│" "  " ++ l.firstLine n left first ++ l.innerLines (n + 1) inner ++
      l.foot "╰" (Text.columns last) note

end Layout

/-- The lines that show a diagnostic about the document of this name and text; none if the span is no stretch of it. -/
def render (d : Diagnostic) (name text : Text) : Text :=
  match place? text d.span.start, place? text d.span.stop, text.slice? d.span with
  | some start, some stop, some inside =>
    let layout : Layout := ⟨(Text.ofNat stop.line).length⟩
    let lines := (Text.lines text).drop (start.line - 1) |>.take (stop.line - start.line + 1)
    let head := Text.concat [d.severity.word, ": ", d.message, "\n"]
    let place := layout.row [] "┌─" (Text.concat [" ", name, ":", Text.ofNat start.line, ":",
      Text.ofNat (start.left.length + 1)])
    let snippet :=
      if start.line = stop.line then
        layout.oneLine start.line start.left inside (lines.head?.getD []) d.note
      else layout.severalLines start.line start.left lines stop.left d.note
    Text.concat [head, place, snippet, "\n"]
  | _, _, _ => []

end Diagnostic

end SnippetSync
