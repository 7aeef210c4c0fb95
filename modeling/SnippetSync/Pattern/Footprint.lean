import Std.Data.HashMap
import SnippetSync.Pattern.ByteRange
import SnippetSync.Pattern.Basic
import SnippetSync.Text.Utf8

/-!
# The size of a pattern

A pattern is measured by two automata over bytes that match what it matches, one reading forward and one backward. Here
it is counted how many states they have and how many bytes these take, without building them; a pattern is refused if
either takes too much. A state has a number, the count of the states before it.

* `Footprint` — states and what they list, `Footprint.bytes` what they take.
* `CharSet.footprint` — the states for one character of a set. Forward, the sequences of bytes are put together to a
  tree whose equal parts are shared as far as a table remembers them; backward, the ends of sequences are shared so.
* `LiteralTree.footprint` — the states for a choice between literals.
* `Expr.footprint` — the states for an expression.
* `Expr.automatonSize` — the bytes that an automaton takes.
-/

namespace SnippetSync

inductive Direction
  | forward
  | backward
  deriving DecidableEq, Repr

/-- The states laid out so far. -/
structure Footprint where
  states : Nat
  /-- The bytes of what the states list beside themselves. -/
  listed : Nat
  deriving DecidableEq, Repr

namespace Footprint

def none : Footprint := ⟨0, 0⟩

/-- The bytes of a state. -/
def stateBytes : Nat := 32

/-- The bytes of a transition in the list of a state. -/
def transitionBytes : Nat := 8

/-- The bytes of an alternative in the list of a state. -/
def alternativeBytes : Nat := 4

/-- The bytes that an automaton may take. -/
def limit : Nat := 10485760

def bytes (f : Footprint) : Nat := stateBytes * f.states + f.listed

def isTooLarge (f : Footprint) : Bool := limit < f.bytes

def add (n : Nat) (f : Footprint) : Footprint := { f with states := f.states + n }

/-- One more state with this many transitions in a list. -/
def addTransitions (n : Nat) (f : Footprint) : Footprint := ⟨f.states + 1, f.listed + transitionBytes * n⟩

def addAlternatives (n : Nat) (f : Footprint) : Footprint := ⟨f.states + 1, f.listed + alternativeBytes * n⟩

def addAlternative (f : Footprint) : Footprint := { f with listed := f.listed + alternativeBytes }

/-- A step done `n` times, but not after the states have become too many. -/
def times (step : Footprint → Footprint) : Nat → Footprint → Footprint
  | 0, f => f
  | n + 1, f => if f.isTooLarge then f else times step n (step f)

end Footprint

/-- A place in a table of so many places for what is told by these numbers. -/
def hashPlace (size : Nat) (keys : List Nat) : Nat :=
  let hash := keys.foldl (fun h k => (h ^^^ k.toUInt64) * 1099511628211) (14695981039346656037 : UInt64)
  hash.toNat % size

/-- A table that remembers the state laid out last for each of its places. -/
abbrev StateTable (Key : Type) := Std.HashMap Nat (Key × Nat)

/-- The state for a key at a place of the table, which is laid out by `add` if the table does not remember it. -/
def StateTable.recall {Key : Type} [DecidableEq Key] (table : StateTable Key) (place : Nat) (key : Key)
    (add : Footprint → Footprint) (f : Footprint) : Nat × StateTable Key × Footprint :=
  match table[place]? with
  | some (key', state) =>
    if key' = key then (state, table, f) else (f.states, table.insert place (key, f.states), add f)
  | none => (f.states, table.insert place (key, f.states), add f)

namespace ByteRange

/-- Sequences with the same first range beside each other, in order: each such range with what follows it. -/
def groups : List (List ByteRange) → List (ByteRange × List (List ByteRange))
  | [] => []
  | [] :: rest => groups rest
  | (r :: tail) :: rest =>
    match groups rest with
    | [] => [(r, [tail])]
    | (r', tails) :: later => if r = r' then (r, tail :: tails) :: later else (r, [tail]) :: (r', tails) :: later

/-- The transitions of a state: ranges of bytes with the states that they lead to. -/
abbrev Transitions := List (ByteRange × Nat)

/-- The places of the table of forward states. -/
def forwardPlaces : Nat := 10000

/-- The places of the table of backward states. -/
def backwardPlaces : Nat := 1000

/-- The state from which the sequences lead to `target`, after all states behind it. -/
def forward (target : Nat) (sequences : List (List ByteRange)) (table : StateTable Transitions) (f : Footprint) :
    Nat → Nat × StateTable Transitions × Footprint
  | 0 => (target, table, f)
  | depth + 1 =>
    if sequences.all List.isEmpty then (target, table, f)
    else
      let (transitions, table, f) := (groups sequences).foldl
        (fun (transitions, table, f) (r, tails) =>
          let (state, table, f) := forward target tails table f depth
          (transitions ++ [(r, state)], table, f))
        (([] : Transitions), table, f)
      let place := hashPlace forwardPlaces (transitions.flatMap fun t => [t.1.lo, t.1.hi, t.2])
      table.recall place transitions (Footprint.addTransitions transitions.length) f

/-- The state from which the ranges lead back to `state`, the last of them being read first. -/
def backward (state : Nat) (table : StateTable (Nat × ByteRange)) (f : Footprint) :
    List ByteRange → StateTable (Nat × ByteRange) × Footprint
  | [] => (table, f)
  | r :: rs =>
    let (state, table, f) := table.recall (hashPlace backwardPlaces [state, r.lo, r.hi]) (state, r) (Footprint.add 1) f
    backward state table f rs

end ByteRange

def CharSet.footprint (s : CharSet) (d : Direction) (f : Footprint) : Footprint :=
  if s.isAscii then (f.add 1).addTransitions s.ranges.length
  else
    let sequences := s.ranges.flatMap fun r => ByteRange.sequences r.1 r.2
    match d with
    | .forward => (ByteRange.forward f.states sequences {} (f.add 1) 4).2.2
    | .backward =>
      let stop := f.states + 1
      let (_, f) := sequences.foldl
        (fun (table, f) rs => let (table, f) := ByteRange.backward stop table f rs; (table, f.addAlternative))
        (({} : StateTable (Nat × ByteRange)), f.add 2)
      f

namespace LiteralTree

/-- Literals that are left at a place of the tree, parted where one ends there; one that ends before any other goes on
is as good as many. -/
def chunks (literals : List (List UInt8)) : List (List (List UInt8)) :=
  match literals with
  | [] :: rest => [] :: (rest.dropWhile List.isEmpty).splitOnP List.isEmpty
  | literals => literals.splitOnP List.isEmpty

/-- What is left of the literals that begin with a byte. -/
def behind (b : UInt8) (literals : List (List UInt8)) : List (List UInt8) :=
  literals.filterMap fun l => if l.head? = some b then some l.tail else none

def firstBytes (literals : List (List UInt8)) : List UInt8 := (literals.filterMap List.head?).eraseDups

/-- The states for the literals that are left at a place of the tree; none if nothing is left of them. The first bytes
of a chunk make one state, and the chunks and the ends between them are alternatives of another. -/
def footprint (literals : List (List UInt8)) (f : Footprint) : Nat → Footprint
  | 0 => f
  | depth + 1 =>
    if literals.all List.isEmpty then f
    else
      let parts := chunks literals
      let f := parts.foldl
        (fun f part => (firstBytes part).foldl (fun f b => footprint (behind b part) f depth) f) f
      let f := parts.foldl
        (fun f part => match (firstBytes part).length with
          | 0 => f
          | 1 => f.add 1
          | n => f.addTransitions n) f
      f.addAlternatives ((parts.filter (!·.isEmpty)).length + (parts.length - 1))

end LiteralTree

namespace Expr

/-- The literals that a choice is between, if it is one between literals only. -/
def literals? : Expr → Option (List Text)
  | literal t => some [t]
  | alt (literal t) b => b.literals?.map (t :: ·)
  | _ => none

def literalsFootprint (d : Direction) (ts : List Text) (f : Footprint) : Footprint :=
  let spelled := ts.map fun t => match d with
    | .forward => Text.bytes t
    | .backward => (Text.bytes t).reverse
  LiteralTree.footprint spelled (f.add 1) ((spelled.map List.length).foldl max 0 + 1)

/-- What a branch adds to the states of its choice after those of its own: a place among the alternatives, and with the
second branch the state that lists them and the one behind the choice. -/
def joinBranch (before : Nat) (f : Footprint) : Footprint :=
  match before with
  | 0 => f
  | 1 => ((f.add 2).addAlternative).addAlternative
  | _ => f.addAlternative

/-- The states for an expression before which `before` branches of the same choice are laid out. -/
def footprintAfter (d : Direction) (before : Nat) : Expr → Footprint → Footprint
  | alt a b, f =>
    match before, (alt a b).literals? with
    | 0, some ts => literalsFootprint d ts f
    | _, _ => footprintAfter d (before + 1) b (joinBranch before (footprintAfter d 0 a f))
  | empty, f => joinBranch before (f.add 1)
  | literal t, f => joinBranch before (f.add t.byteLength)
  | chars s, f => joinBranch before (s.footprint d f)
  | anchor _, f => joinBranch before (f.add 1)
  | group _ _ e, f =>
    joinBranch before <| match d with
      | .forward => (footprintAfter d 0 e (f.add 1)).add 1
      | .backward => footprintAfter d 0 e f
  | seq a b, f =>
    joinBranch before <| match d with
      | .forward => footprintAfter d 0 b (footprintAfter d 0 a f)
      | .backward => footprintAfter d 0 a (footprintAfter d 0 b f)
  | rep e min max _, f =>
    joinBranch before <| match min, max with
      | 0, some 1 => ((footprintAfter d 0 e (f.addAlternatives 2))).add 1
      | 0, none =>
        if e.alwaysReads then footprintAfter d 0 e (f.addAlternatives 2)
        else (((footprintAfter d 0 e f).addAlternatives 2).addAlternatives 2).add 1
      | min, none => (Footprint.times (footprintAfter d 0 e) min f).addAlternatives 2
      | min, some max =>
        let f := if min = 0 then f.add 1 else Footprint.times (footprintAfter d 0 e) min f
        if min = max then f
        else Footprint.times (fun f => footprintAfter d 0 e (f.addAlternatives 2)) (max - min) (f.add 1)

def footprint (d : Direction) (e : Expr) (f : Footprint) : Footprint := footprintAfter d 0 e f

/-- The first thing that the automaton of a direction meets: of all matches, whether they are bound to begin or to end
where the text does. -/
def isBound (d : Direction) : Expr → Bool
  | anchor a => match d with
    | .forward => a = .textStart
    | .backward => a = .textEnd
  | group _ _ e => e.isBound d
  | seq a b => match d with
    | .forward => a.isBound d || (a.onlyEmpty && b.isBound d)
    | .backward => b.isBound d || (b.onlyEmpty && a.isBound d)
  | alt a b => a.isBound d && b.isBound d
  | rep e min _ _ => 0 < min && e.isBound d
  | _ => false

/-- The bytes that the automaton of a direction takes: a loop over the bytes before a match, unless it is bound to an
end of the text, the expression, forward as a group of its own, and the state that ends it. -/
def automatonSize (d : Direction) (e : Expr) : Nat :=
  let start : Footprint := if e.isBound d then Footprint.none.add 1
    else ((Footprint.none.addAlternatives 2).add 1).addTransitions 1
  let whole := match d with
    | .forward => (e.footprint d (start.add 1)).add 1
    | .backward => e.footprint d start
  (whole.add 1).bytes

end Expr

end SnippetSync
