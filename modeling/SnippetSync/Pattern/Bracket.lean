import SnippetSync.Pattern.Escape
import SnippetSync.Text.Occurrence

/-!
# Bracketed sets

A bracketed set lists characters, ranges, escapes, named sets such as `[:alpha:]` and further bracketed sets. It may be
negated by a hat, and two lists may be joined by `&&`, `--` and `~~`, read from left to right.

* `Mode.bracket?` — reads a bracketed set from its opening bracket on.
-/

namespace SnippetSync

inductive SetOperator
  | inter
  | diff
  | symmDiff
  deriving DecidableEq, Repr

/-- The set that two others are joined to. -/
def SetOperator.apply : SetOperator → CharSet → CharSet → CharSet
  | inter => .inter
  | diff => .diff
  | symmDiff => .symmDiff

/-- A set with the depth to which brackets, lists and operators are nested in what writes it. -/
structure NestedSet where
  set : CharSet
  depth : Nat
  deriving DecidableEq, Repr

structure Members where
  set : CharSet
  count : Nat
  depth : Nat
  deriving DecidableEq, Repr

namespace Members

def none : Members := ⟨.empty, 0, 0⟩

def add (ms : Members) (s : CharSet) (depth : Nat) : Members := ⟨ms.set.union s, ms.count + 1, max ms.depth depth⟩

/-- The set of the members; two or more of them are a list. -/
def nested (ms : Members) : NestedSet := ⟨ms.set, if 2 ≤ ms.count then ms.depth + 1 else ms.depth⟩

end Members

/-- What stands to the left of a list inside brackets, innermost first. -/
inductive BracketFrame
  /-- A bracket inside a list that has these members so far. -/
  | bracket (members : Members) (negated : Bool)
  | operator (op : SetOperator) (left : NestedSet)
  deriving DecidableEq, Repr

def namedSet? (name : Text) : Option CharSet :=
  let upper := ('A', 'Z')
  let lower := ('a', 'z')
  let digits := ('0', '9')
  [ (("alnum" : Text), [digits, upper, lower])
  , ("alpha", [upper, lower])
  , ("ascii", [('\x00', '\x7f')])
  , ("blank", [('\t', '\t'), (' ', ' ')])
  , ("cntrl", [('\x00', '\x1f'), ('\x7f', '\x7f')])
  , ("digit", [digits])
  , ("graph", [('!', '~')])
  , ("lower", [lower])
  , ("print", [(' ', '~')])
  , ("punct", [('!', '/'), (':', '@'), ('[', '\x60'), ('\x7b', '~')])
  , ("space", [('\t', '\r'), (' ', ' ')])
  , ("upper", [upper])
  , ("word", [digits, upper, ('_', '_'), lower])
  , ("xdigit", [digits, ('A', 'F'), ('a', 'f')]) ].lookup name |>.map CharSet.ofCharRanges

namespace Mode

def closeBracket? (m : Mode) (negated : Bool) (s : CharSet) : Option CharSet :=
  if negated then m.compl? (m.cased s) else some (m.cased s)

/-- A named set after its opening bracket, with what follows its closing bracket; nothing if this is no named set.
That it may not be negated in the mode is told by a set that is missing. -/
def namedSetAt? (m : Mode) (t : Text) : Option (Option CharSet × Text) := do
  let t ← Text.after? ":" t
  let (negated, t) := match t with
    | '^' :: r => (true, r)
    | t => (false, t)
  let s ← namedSet? (t.takeWhile (· != ':'))
  let rest ← Text.after? ":]" (t.dropWhile (· != ':'))
  return (m.closeBracket? negated s, rest)

/-- The minus signs in front, which stand for themselves there: how many there are, and what follows them. -/
def leadingMinuses (m : Mode) (count : Nat) : Text → Nat × Text
  | '-' :: t =>
    have := m.length_skip_le t
    leadingMinuses m (count + 1) (m.skip t)
  | t => (count, t)
termination_by t => t.length

/-- The beginning of a bracketed set after its opening bracket: whether it is negated, its first members, and what
follows them. A closing bracket that comes first stands for itself. -/
def openBracket (m : Mode) (t : Text) : Bool × Members × Text :=
  let (negated, t) := match m.skip t with
    | '^' :: r => (true, m.skip r)
    | t => (false, t)
  match m.leadingMinuses 0 t with
  | (count + 1, t) => (negated, ⟨.one '-', count + 1, 0⟩, t)
  | (0, ']' :: t) => (negated, ⟨.one ']', 1, 0⟩, m.skip t)
  | (0, t) => (negated, .none, t)

def member? (m : Mode) : Text → Option (Atom × Text)
  | [] => none
  | '\\' :: t => m.escape? t
  | c :: t => some (.char c, t)

/-- The set of a member, which cannot be a condition. -/
def memberSet? (m : Mode) : Atom → Option CharSet
  | .char c => if m.knows c then some (.one c) else none
  | .set s => some s
  | .anchor _ => none

def rangeSet? (m : Mode) : Atom → Atom → Option CharSet
  | .char lo, .char hi => if lo ≤ hi ∧ m.knows hi then some (.between lo hi) else none
  | _, _ => none

/-- A member or a range, with what follows it. A minus stands for itself before a closing bracket or another minus. -/
def range? (m : Mode) (t : Text) : Option (CharSet × Text) := do
  let (first, t) ← m.member? t
  match m.skip t with
  | [] => none
  | '-' :: r =>
    if m.peek? r = some ']' ∨ m.peek? r = some '-' then return (← m.memberSet? first, '-' :: r)
    else
      let (last, rest) ← m.member? (m.skip r)
      return (← m.rangeSet? first last, rest)
  | t => return (← m.memberSet? first, t)

/-- The set of a list that may be the right operand of an operator to its left, and the frames left of that. -/
def operand (m : Mode) (right : NestedSet) : List BracketFrame → NestedSet × List BracketFrame
  | .operator op left :: frames =>
    (⟨op.apply (m.cased left.set) (m.cased right.set), max left.depth right.depth + 1⟩, frames)
  | frames => (right, frames)

/-- Reads on inside brackets. `members` is the list read so far, and `fuel` more than the number of characters left. -/
def bracketLoop? (m : Mode) (fuel : Nat) (frames : List BracketFrame) (members : Members) (t : Text) :
    Option (NestedSet × Text) :=
  match fuel with
  | 0 => none
  | fuel + 1 =>
    let operator (op : SetOperator) (r : Text) :=
      let (left, frames) := m.operand members.nested frames
      m.bracketLoop? fuel (.operator op left :: frames) .none r
    match m.skip t with
    | [] => none
    | '[' :: r =>
      match m.namedSetAt? r with
      | some (some s, rest) => m.bracketLoop? fuel frames (members.add s 0) rest
      | some (none, _) => none
      | none =>
        let (negated, first, rest) := m.openBracket r
        m.bracketLoop? fuel (.bracket members negated :: frames) first rest
    | ']' :: r =>
      match m.operand members.nested frames with
      | (inner, .bracket outer negated :: frames) =>
        match m.closeBracket? negated inner.set with
        | some s => m.bracketLoop? fuel frames (outer.add s (inner.depth + 1)) r
        | none => none
      | (s, _) => some (s, r)
    | '&' :: '&' :: r => operator .inter r
    | '-' :: '-' :: r => operator .diff r
    | '~' :: '~' :: r => operator .symmDiff r
    | t =>
      match m.range? t with
      | none => none
      | some (s, rest) => m.bracketLoop? fuel frames (members.add s 0) rest

def bracket? (m : Mode) (t : Text) : Option (NestedSet × Text) := do
  let (negated, first, rest) := m.openBracket t
  let (inner, rest) ← m.bracketLoop? (t.length + 1) [] first rest
  return (⟨← m.closeBracket? negated inner.set, inner.depth + 1⟩, rest)

end Mode

end SnippetSync
