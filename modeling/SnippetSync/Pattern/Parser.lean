import SnippetSync.Pattern.Bracket

/-!
# Reading patterns

The written form of a pattern is read from left to right. The groups that are open are kept on a stack, each with the
branches and pieces it has so far.

* `Level` — what is read so far of a group.
* `Reading` — what is read so far of a pattern; `Reading.step?` reads on.
* `Expr.parse?` — the expression that a text writes.
-/

namespace SnippetSync

/-- A piece of a pattern with the depth to which groups, repetitions, lists and brackets are nested in it. A change of
mode is a piece that is no expression. -/
structure Piece where
  expr : Option Expr
  depth : Nat

namespace Piece

def leaf (e : Expr) : Piece := ⟨some e, 0⟩

def modeChange : Piece := ⟨none, 0⟩

/-- The depth of a list; a list of one is no list. -/
def listDepth (ps : List Piece) : Nat :=
  let depth := ps.foldl (fun d p => max d p.depth) 0
  if 2 ≤ ps.length then depth + 1 else depth

end Piece

/-- What is read so far of a group, or of the whole pattern. -/
structure Level where
  /-- The number and the name of the group, if it is one that is counted. -/
  label : Option (Nat × Option Text)
  /-- The mode outside the group. -/
  outside : Mode
  /-- The finished branches, last first. -/
  branches : List Piece
  /-- The pieces of the branch at hand, last first. -/
  pieces : List Piece

namespace Level

def fresh (label : Option (Nat × Option Text)) (outside : Mode) : Level := ⟨label, outside, [], []⟩

def push (l : Level) (piece : Piece) : Level := { l with pieces := piece :: l.pieces }

def branch (l : Level) : Level :=
  let piece : Piece := ⟨some (Expr.concat (l.pieces.reverse.filterMap (·.expr))), Piece.listDepth l.pieces⟩
  { l with branches := piece :: l.branches, pieces := [] }

/-- The expression of the level, and its depth without that of the group itself. -/
def expr (l : Level) : Expr × Nat :=
  let branches := l.branch.branches
  let e := Expr.oneOf (branches.reverse.filterMap (·.expr))
  (match l.label with
    | some (index, name) => .group index name e
    | none => e,
    Piece.listDepth branches)

end Level

/-- What is read so far of a pattern. -/
structure Reading where
  mode : Mode
  level : Level
  /-- The levels around it, innermost first. -/
  outer : List Level
  groups : Nat
  names : List Text

namespace Mode

/-- A number, with what follows it and the blanks around it. -/
def count? (m : Mode) (t : Text) : Option (Nat × Text) :=
  let (digits, rest) := m.takeWhile Char.isDigit (t.dropWhile Text.isBlank)
  let n := digits.foldl (fun n c => n * 10 + (c.toNat - '0'.toNat)) 0
  if digits = [] ∨ 0x100000000 ≤ n then none else some (n, rest.dropWhile Text.isBlank)

/-- How often something is repeated, after an opening brace, with what follows the closing one. -/
def counts? (m : Mode) (t : Text) : Option (Nat × Option Nat × Text) := do
  let (min, t) ← m.count? (m.skip t)
  match t with
  | '}' :: r => return (min, some min, m.skip r)
  | ',' :: r =>
    match m.skip r with
    | '}' :: r => return (min, none, m.skip r)
    | r =>
      let (max, t) ← m.count? r
      match t with
      | '}' :: r => if min ≤ max then return (min, some max, m.skip r) else none
      | _ => none
  | _ => none

/-- The name of a group, with what follows the angle bracket that closes it. -/
def groupName? (t : Text) : Option (Text × Text) :=
  match t.takeWhile (· != '>'), t.dropWhile (· != '>') with
  | c :: cs, _ :: rest =>
    if Text.isNameStart c && cs.all Text.isNamePart then some (c :: cs, rest) else none
  | _, _ => none

/-- How groups that only look at the text begin; there are none. -/
def isLookAround (t : Text) : Bool :=
  [("?=" : Text), "?!", "?<=", "?<!"].any (·.isPrefixOf t)

end Mode

namespace Reading

def fresh : Reading := ⟨{}, Level.fresh none {}, [], 0, []⟩

def push (s : Reading) (piece : Piece) : Reading := { s with level := s.level.push piece }

def openGroup (s : Reading) (label : Option (Nat × Option Text)) (mode : Mode) : Reading :=
  { s with mode, level := Level.fresh label s.mode, outer := s.level :: s.outer }

def openCounted (s : Reading) (name : Option Text) : Reading :=
  { s.openGroup (some (s.groups + 1, name)) s.mode with groups := s.groups + 1, names := name.toList ++ s.names }

/-- Reads what follows an opening parenthesis up to the contents of the group, or a change of mode. -/
def group? (s : Reading) (t : Text) : Option (Reading × Text) :=
  let t := s.mode.skip t
  if Mode.isLookAround t then none
  else match (Text.after? "?P<" t).or (Text.after? "?<" t), Text.after? "?" t with
    | some t, _ => do
      let (name, rest) ← Mode.groupName? t
      if s.names.contains name then none else return (s.openCounted (some name), rest)
    | none, some t => do
      let (mode, empty, closed, rest) ← s.mode.readFlags? [] t
      if closed then
        if empty then none else return ({ s.push .modeChange with mode }, rest)
      else return (s.openGroup none mode, rest)
    | none, none => some (s.openCounted none, t)

def close? (s : Reading) : Option Reading :=
  match s.outer with
  | [] => none
  | l :: outer =>
    let (e, depth) := s.level.expr
    some { s with mode := s.level.outside, level := l.push ⟨some e, depth + 1⟩, outer }

/-- Repeats the last piece. A question mark after the operator turns the preference around. -/
def repeat? (s : Reading) (min : Nat) (max : Option Nat) (t : Text) : Option (Reading × Text) :=
  match s.level.pieces with
  | ⟨some e, depth⟩ :: pieces =>
    let (greedy, t) := match t with
      | '?' :: r => (s.mode.lazyFirst, r)
      | t => (!s.mode.lazyFirst, t)
    let piece : Piece := ⟨some (e.times min max greedy), depth + 1⟩
    some ({ s with level := { s.level with pieces := piece :: pieces } }, t)
  | _ => none

def step? (s : Reading) (c : Char) (t : Text) : Option (Reading × Text) :=
  match c with
  | '(' => s.group? t
  | ')' => s.close?.map fun s => (s, t)
  | '|' => some ({ s with level := s.level.branch }, t)
  | '[' => (s.mode.bracket? t).map fun p => (s.push ⟨some (.ofSet p.1.set), p.1.depth⟩, p.2)
  | '?' => s.repeat? 0 (some 1) t
  | '*' => s.repeat? 0 none t
  | '+' => s.repeat? 1 none t
  | '\x7b' => do
    let (min, max, rest) ← s.mode.counts? t
    s.repeat? min max rest
  | '.' => s.mode.dot?.map fun set => (s.push (.leaf (.ofSet set)), t)
  | '^' => some (s.push (.leaf (.anchor s.mode.hat)), t)
  | '$' => some (s.push (.leaf (.anchor s.mode.dollar)), t)
  | '\\' => (s.mode.escape? t).map fun p => (s.push (.leaf (p.1.expr s.mode)), p.2)
  | c => some (s.push (.leaf ((Atom.char c).expr s.mode)), t)

/-- The depth to which a pattern may be nested. -/
def depthLimit : Nat := 250

def finish? (s : Reading) : Option Expr :=
  let (e, depth) := s.level.expr
  if s.outer.isEmpty && depth ≤ depthLimit then some e else none

/-- Reads to the end of the text; `fuel` is more than the number of characters left. -/
def toEnd? (fuel : Nat) (s : Reading) (t : Text) : Option Expr :=
  match fuel with
  | 0 => none
  | fuel + 1 =>
    match s.mode.skip t with
    | [] => s.finish?
    | c :: t =>
      match s.step? c t with
      | none => none
      | some (s, t) => toEnd? fuel s t

end Reading

def Expr.parse? (t : Text) : Option Expr := Reading.fresh.toEnd? (t.length + 1) t

end SnippetSync
