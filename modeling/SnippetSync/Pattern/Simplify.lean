import SnippetSync.Pattern.Basic

/-!
# Expressions in simple form

Expressions are put together in a form that is as simple as can be told at a glance. A sequence has no sequence and
nothing empty in it and no two literals side by side; a choice has no choice in it. Both lean to the right.

* `Expr.ofSet` — one character of a set.
* `Expr.factors`, `Expr.concat` — the parts of a sequence, and the sequence of some expressions.
* `Expr.branches`, `Expr.oneOf` — the branches of a choice, and the choice between some expressions. What all branches
  begin with is read once, before the choice.
* `Expr.times` — a repetition.
-/

namespace SnippetSync.Expr

def ofSet (s : CharSet) : Expr :=
  match s.single? with
  | some c => literal [c]
  | none => chars s

/-- The parts of a sequence. -/
def factors : Expr → List Expr
  | empty => []
  | seq a b => a :: b.factors
  | e => [e]

/-- The parts of a sequence with neighbouring literals joined. -/
def joinLiterals : List Expr → List Expr
  | [] => []
  | literal t :: es =>
    match joinLiterals es with
    | literal u :: rest => literal (t ++ u) :: rest
    | rest => literal t :: rest
  | e :: es => e :: joinLiterals es

def ofFactors : List Expr → Expr
  | [] => empty
  | [e] => e
  | e :: es => seq e (ofFactors es)

def concat (es : List Expr) : Expr := ofFactors (joinLiterals (es.flatMap factors))

/-- The branches of a choice. -/
def branches : Expr → List Expr
  | alt a b => a :: b.branches
  | e => [e]

def ofBranches : List Expr → Expr
  | [] => chars CharSet.empty
  | [e] => e
  | e :: es => alt e (ofBranches es)

/-- The character that the expression stands for, if it is one character. -/
def char? : Expr → Option Char
  | literal [c] => some c
  | _ => none

/-- The set of the expression, if it reads one character of a set. -/
def set? : Expr → Option CharSet
  | chars s => some s
  | _ => none

def parts? : Expr → Option (List Expr)
  | seq a b => some (seq a b).factors
  | _ => none

/-- What two lists begin with alike. -/
def commonStart : List Expr → List Expr → List Expr
  | x :: xs, y :: ys => if x = y then x :: commonStart xs ys else []
  | _, _ => []

def commonStartOf : List (List Expr) → List Expr
  | [] => []
  | xs :: xss => xss.foldl commonStart xs

/-- The choice between branches that are no choices. Branches that each read one character make one set. If all are
sequences that begin alike, this beginning is put before the choice, at most `fuel` times over. -/
def choose (fuel : Nat) (es : List Expr) : Expr :=
  match es.mapM char?, es.mapM set?, es.mapM parts?, fuel with
  | some cs, _, _, _ => ofSet (CharSet.ofCharRanges (cs.map fun c => (c, c)))
  | _, some ss, _, _ => ofSet (ss.foldl CharSet.union CharSet.empty)
  | _, _, some fs, fuel + 1 =>
    match commonStartOf fs with
    | [] => ofBranches es
    | start =>
      let rests := (fs.map fun f => concat (f.drop start.length)).flatMap branches
      concat (start ++ [choose fuel rests])
  | _, _, _, _ => ofBranches es

/-- The number of parts of an expression, its smallest ones and their combinations. -/
def weight : Expr → Nat
  | group _ _ e => e.weight + 1
  | seq a b => a.weight + b.weight + 1
  | alt a b => a.weight + b.weight + 1
  | rep e _ _ _ => e.weight + 1
  | _ => 1

/-- One of the expressions, earlier ones preferred. -/
def oneOf (es : List Expr) : Expr :=
  match es with
  | [e] => e
  | es => choose ((es.map weight).foldl (· + ·) 0) (es.flatMap branches)

/-- A repetition. What is repeated no times is empty, what is repeated once is itself, and more than once is too often
for an expression that matches only the empty text. -/
def times (e : Expr) (min : Nat) (max : Option Nat) (greedy : Bool) : Expr :=
  let (min, max) := if e.onlyEmpty then (Min.min min 1, some (max.elim 1 (Min.min · 1))) else (min, max)
  if min = 0 ∧ max = some 0 then empty
  else if min = 1 ∧ max = some 1 then e
  else rep e min max greedy

end SnippetSync.Expr
