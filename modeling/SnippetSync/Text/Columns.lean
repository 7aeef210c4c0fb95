import SnippetSync.Text.Basic
import SnippetSync.Text.Class
import SnippetSync.Text.WidthTable

/-!
# Columns

How many columns of a terminal a text takes. A tab fills up to the next multiple of four columns.

* `Text.charColumns` — the columns of a character at a given column.
* `Text.columnsFrom`, `Text.columns` — the columns of a text.
* `Text.expandTabs` — the text with spaces in place of tabs.
-/

namespace SnippetSync.Text

/-- The columns between tab stops. -/
def tabWidth : Nat := 4

/-- Controls take no column. -/
def isControl (c : Char) : Bool := c.toNat < 0x20 || (0x7F ≤ c.toNat && c.toNat < 0xA0)

/-- The columns that a character other than a tab takes. One sign of the Khmer script takes three. -/
def glyphColumns (c : Char) : Nat :=
  if isControl c || inRanges zeroWidthRanges c then 0
  else if inRanges wideRanges c then 2
  else if c = '\u17D8' then 3
  else 1

/-- The columns that a character takes which begins at a given column. -/
def charColumns (column : Nat) (c : Char) : Nat :=
  if c = '\t' then tabWidth - column % tabWidth else glyphColumns c

def columnsFrom (column : Nat) : Text → Nat
  | [] => 0
  | c :: t => charColumns column c + columnsFrom (column + charColumns column c) t

def columns (t : Text) : Nat := columnsFrom 0 t

/-- The text with spaces in place of tabs, the first character being at a given column. -/
def expandTabs (column : Nat) : Text → Text
  | [] => []
  | c :: t =>
    let width := charColumns column c
    (if c = '\t' then List.replicate width ' ' else [c]) ++ expandTabs (column + width) t

end SnippetSync.Text
