import SnippetSync.Pattern.CharSet
import SnippetSync.Text.CaseTable
import SnippetSync.Text.Class

/-!
# Classes in patterns

The sets of characters that have a name of their own, for all scripts and for ASCII alone, and sets without regard to
case.

* `CharSet.digit`, `CharSet.blank`, `CharSet.word` — the classes of all scripts.
* `CharSet.asciiDigit`, `CharSet.asciiBlank`, `CharSet.asciiWord` — the classes of ASCII.
* `CharSet.fold`, `CharSet.asciiFold` — a set with the variants in case of its characters.
-/

namespace SnippetSync.CharSet

def digit : CharSet := (ofRanges Text.digitRanges).diff (ofRanges Text.recentRanges)

def blank : CharSet := ofRanges Text.blankRanges

theorem contains_blank (c : Char) : blank.contains c = Text.isBlank c := by
  simp [blank, Text.isBlank, Text.inRanges]

def word : CharSet :=
  let letters := (ofRanges Text.alphabeticRanges).union (ofRanges Text.markRanges)
  let others := (ofRanges Text.connectorRanges).union (ofRanges Text.joinerRanges)
  ((letters.union (ofRanges Text.digitRanges)).union others).diff (ofRanges Text.recentRanges)

def between (lo hi : Char) : CharSet := range lo.toNat hi.toNat

def ofCharRanges (rs : List (Char × Char)) : CharSet := ofRanges (rs.map fun r => (r.1.toNat, r.2.toNat))

def asciiDigit : CharSet := between '0' '9'

def asciiBlank : CharSet := ofCharRanges [('\t', '\r'), (' ', ' ')]

def asciiWord : CharSet := ofCharRanges [('0', '9'), ('A', 'Z'), ('_', '_'), ('a', 'z')]

/-- The members that pairs of variants add to a set. -/
def foldBy (pairs : List (Nat × Nat)) (s : CharSet) : CharSet :=
  let has (p : Nat) : Bool := holdsAt false s.changes p
  let new := pairs.flatMap fun (a, b) =>
    if has a && !has b then [(b, b)] else if has b && !has a then [(a, a)] else []
  s.union (ofRanges new)

/-- The set with the variants in case of its characters. -/
def fold : CharSet → CharSet := foldBy Text.casePairs

/-- The set with the variants in case of its letters of ASCII, as far as these are of ASCII. -/
def asciiFold : CharSet → CharSet :=
  foldBy ((List.range 26).map fun i => ('A'.toNat + i, 'a'.toNat + i))

end SnippetSync.CharSet
