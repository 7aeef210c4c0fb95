import SnippetSync.Text.Alphabetic
import SnippetSync.Text.Mark
import SnippetSync.Text.Number
import SnippetSync.Text.Recent

/-!
# Classes of characters

* `Text.isBlank` — white space.
* `Text.isWord` — the characters of words: letters, marks, digits, connectors and joiners.
* `Text.isNameStart`, `Text.isNamePart` — the characters of a name.
-/

namespace SnippetSync.Text

def inRanges (ranges : List (Nat × Nat)) (c : Char) : Bool :=
  ranges.any fun r => r.1 ≤ c.toNat && c.toNat ≤ r.2

/-- The ranges of white space: the controls from tab to carriage return, and the separators. -/
def blankRanges : List (Nat × Nat) := [(0x9, 0xD), (0x20, 0x20), (0x85, 0x85), (0xA0, 0xA0), (0x1680, 0x1680),
  (0x2000, 0x200A), (0x2028, 0x2029), (0x202F, 0x202F), (0x205F, 0x205F), (0x3000, 0x3000)]

def isBlank (c : Char) : Bool := inRanges blankRanges c

/-- The characters that words do not know yet. -/
def isRecent (c : Char) : Bool := inRanges recentRanges c

def connectorRanges : List (Nat × Nat) :=
  [(0x5F, 0x5F), (0x203F, 0x2040), (0x2054, 0x2054), (0xFE33, 0xFE34), (0xFE4D, 0xFE4F), (0xFF3F, 0xFF3F)]

def isConnector (c : Char) : Bool := inRanges connectorRanges c

/-- The range of the two controls that join or separate the letters beside them. -/
def joinerRanges : List (Nat × Nat) := [(0x200C, 0x200D)]

def isJoiner (c : Char) : Bool := inRanges joinerRanges c

/-- Letters and what else counts as one. -/
def isAlphabetic (c : Char) : Bool := inRanges alphabeticRanges c

def isWord (c : Char) : Bool :=
  (isAlphabetic c || inRanges markRanges c || inRanges digitRanges c || isConnector c || isJoiner c) && !isRecent c

/-- Letters, digits and other numbers. -/
def isAlphanumeric (c : Char) : Bool :=
  isAlphabetic c || inRanges digitRanges c || inRanges otherNumberRanges c

def isNameStart (c : Char) : Bool := c == '_' || isAlphabetic c

def isNamePart (c : Char) : Bool := c == '_' || c == '.' || c == '[' || c == ']' || isAlphanumeric c

end SnippetSync.Text
