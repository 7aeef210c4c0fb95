import SnippetSync.Pattern.Mode
import SnippetSync.Pattern.Simplify

/-!
# Escapes

Classes by a property of Unicode, such as `\pL`, `\p{Greek}` and `\P{Greek}`, are not read. A text with one of them is
refused like one that writes no expression.

* `Atom` — what a single character or an escape stands for.
* `Mode.escape?` — reads what follows a backslash.
-/

namespace SnippetSync

/-- What a single character or an escape stands for. -/
inductive Atom
  | char (c : Char)
  | set (s : CharSet)
  | anchor (a : Anchor)
  deriving DecidableEq, Repr

/-- The expression of an atom in a mode. Case matters to characters only. -/
def Atom.expr (m : Mode) : Atom → Expr
  | char c => .ofSet (m.cased (.one c))
  | set s => .ofSet s
  | anchor a => .anchor a

def hexDigit? (c : Char) : Option Nat :=
  if c.isDigit then some (c.toNat - '0'.toNat)
  else if 'a' ≤ c ∧ c ≤ 'f' then some (c.toNat - 'a'.toNat + 10)
  else if 'A' ≤ c ∧ c ≤ 'F' then some (c.toNat - 'A'.toNat + 10)
  else none

def charOfHex? (digits : Text) : Option Char := do
  guard (digits ≠ [])
  let n ← digits.foldlM (fun n c => (hexDigit? c).map (n * 16 + ·)) 0
  if n.isValidChar then return Char.ofNat n else none

/-- The characters that an escape makes literal: those of ASCII that are neither letters, digits nor angle brackets. -/
def isEscapable (c : Char) : Bool := c.toNat < 128 && !c.isAlphanum && c != '<' && c != '>'

namespace Mode

/-- Exactly `n` significant characters, and what follows them and the ignored ones behind. -/
def take? (m : Mode) : Nat → Text → Option (Text × Text)
  | 0, t => some ([], m.skip t)
  | n + 1, t =>
    match m.skip t with
    | [] => none
    | c :: t => (take? m n t).map fun p => (c :: p.1, p.2)

/-- The characters of a word in braces, after the opening brace, with what follows the closing one. -/
def braced? (m : Mode) (p : Char → Bool) (t : Text) : Option (Text × Text) :=
  match m.takeWhile p (m.skip t) with
  | (word, '\x7d' :: rest) => some (word, rest)
  | _ => none

/-- A character code: a fixed number of digits, or any number of them in braces. Two digits tell a byte to a mode that
knows ASCII alone. -/
def hexCode? (m : Mode) (digits : Nat) (t : Text) : Option (Atom × Text) :=
  match m.skip t with
  | '\x7b' :: t => do
    let (code, rest) ← m.braced? (fun c => (hexDigit? c).isSome) t
    return (.char (← charOfHex? code), m.skip rest)
  | t => do
    let (code, rest) ← m.take? digits t
    let c ← charOfHex? code
    if digits = 2 ∧ !m.knows c then none else return (.char c, rest)

def boundaryOfName? (name : Text) : Option WordPlace :=
  if name = "start" then some .start
  else if name = "end" then some .stop
  else if name = "start-half" then some .startHalf
  else if name = "end-half" then some .stopHalf
  else none

def wordAnchor (m : Mode) (p : WordPlace) : Atom := .anchor (.word p m.ascii)

def isBoundaryLetter (c : Char) : Bool := c.isAlpha || c == '-'

/-- A word boundary, whose name may follow in braces. A brace that no letter or minus follows begins a count instead. -/
def boundary? (m : Mode) (t : Text) : Option (Atom × Text) :=
  match t with
  | '\x7b' :: r =>
    match m.skip r with
    | [] => none
    | c :: _ =>
      if isBoundaryLetter c then do
        let (name, rest) ← m.braced? isBoundaryLetter r
        return (m.wordAnchor (← boundaryOfName? name), rest)
      else some (m.wordAnchor .boundary, t)
  | _ => some (m.wordAnchor .boundary, t)

/-- What stands after a backslash, with what follows it. -/
def escape? (m : Mode) : Text → Option (Atom × Text)
  | [] => none
  | c :: t =>
    match c with
    | 'd' => some (.set m.digit, t)
    | 'D' => (m.compl? m.digit).map fun s => (.set s, t)
    | 's' => some (.set m.blank, t)
    | 'S' => (m.compl? m.blank).map fun s => (.set s, t)
    | 'w' => some (.set m.word, t)
    | 'W' => (m.compl? m.word).map fun s => (.set s, t)
    | 'a' => some (.char '\x07', t)
    | 'f' => some (.char '\x0c', t)
    | 't' => some (.char '\t', t)
    | 'n' => some (.char '\n', t)
    | 'r' => some (.char '\r', t)
    | 'v' => some (.char '\x0b', t)
    | 'x' => m.hexCode? 2 t
    | 'u' => m.hexCode? 4 t
    | 'U' => m.hexCode? 8 t
    | 'A' => some (.anchor .textStart, t)
    | 'z' => some (.anchor .textEnd, t)
    | 'b' => m.boundary? t
    | 'B' => some (m.wordAnchor .notBoundary, t)
    | '<' => some (m.wordAnchor .start, t)
    | '>' => some (m.wordAnchor .stop, t)
    | c => if isEscapable c then some (.char c, t) else none

end Mode

end SnippetSync
