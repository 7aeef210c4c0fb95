import SnippetSync.Pattern.CharClass
import SnippetSync.Text.Basic

/-!
# Patterns

A pattern is a regular expression with named groups. Four names tell the parts of a block.

* `Field` — the parts of a block that a pattern names, `Fields` — one value for each.
* `Anchor` — the conditions on a place in a text, `Anchor.holds`.
* `Expr` — regular expressions.
-/

namespace SnippetSync

/-- A part of a block that a pattern has to name. -/
inductive Field
  | opening
  | language
  | source
  | body
  deriving DecidableEq, Repr

namespace Field

/-- The parts in the order in which they are asked for. -/
def all : List Field := [opening, language, source, body]

def name : Field → Text
  | opening => "open"
  | language => "language"
  | source => "source"
  | body => "body"

def ofName? (n : Text) : Option Field := all.find? (·.name == n)

end Field

/-- One value for each part of a block. -/
structure Fields (α : Type) where
  opening : α
  language : α
  source : α
  body : α
  deriving Repr

namespace Fields

def const {α : Type} (a : α) : Fields α := ⟨a, a, a, a⟩

def get {α : Type} (x : Fields α) : Field → α
  | .opening => x.opening
  | .language => x.language
  | .source => x.source
  | .body => x.body

def set {α : Type} (x : Fields α) (f : Field) (a : α) : Fields α :=
  match f with
  | .opening => ⟨a, x.language, x.source, x.body⟩
  | .language => ⟨x.opening, a, x.source, x.body⟩
  | .source => ⟨x.opening, x.language, a, x.body⟩
  | .body => ⟨x.opening, x.language, x.source, a⟩

@[simp] theorem get_const {α : Type} (a : α) (f : Field) : (const a).get f = a := by cases f <;> rfl

theorem get_set {α : Type} (x : Fields α) (f g : Field) (a : α) :
    (x.set f a).get g = if g = f then a else x.get g := by
  cases f <;> cases g <;> rfl

end Fields

/-- A condition on a place in regard to the word characters beside it. -/
inductive WordPlace
  | boundary
  | notBoundary
  | start
  | stop
  | startHalf
  | stopHalf
  deriving DecidableEq, Repr

/-- The condition holds where a word character stands before the place, and one after it, or not. -/
def WordPlace.holds (before after : Bool) : WordPlace → Bool
  | boundary => before != after
  | notBoundary => before == after
  | start => !before && after
  | stop => before && !after
  | startHalf => !before
  | stopHalf => !after

/-- A condition on a place between two characters. -/
inductive Anchor
  | textStart
  | textEnd
  | lineStart
  | lineEnd
  /-- A place at which a line starts where a carriage return ends a line too. -/
  | anyLineStart
  | anyLineEnd
  /-- A place in regard to words, of ASCII alone or of all scripts. -/
  | word (place : WordPlace) (ascii : Bool)
  deriving DecidableEq, Repr

/-- The condition holds between these two characters, which are missing at the ends of the text. -/
def Anchor.holds (before after : Option Char) : Anchor → Bool
  | textStart => before.isNone
  | textEnd => after.isNone
  | lineStart => before.all (· == '\n')
  | lineEnd => after.all (· == '\n')
  | anyLineStart => before.all fun c => c == '\n' || (c == '\r' && after != some '\n')
  | anyLineEnd => after.all fun c => c == '\r' || (c == '\n' && before != some '\r')
  | word place ascii =>
    let isWord := if ascii then CharSet.asciiWord.contains else Text.isWord
    place.holds (before.any isWord) (after.any isWord)

inductive Expr
  | empty
  /-- These characters one after the other. -/
  | literal (t : Text)
  /-- One character of a set. -/
  | chars (s : CharSet)
  | anchor (a : Anchor)
  /-- The group of this number, counted from one, and its name. -/
  | group (index : Nat) (name : Option Text) (e : Expr)
  | seq (a b : Expr)
  /-- Either of the two, the first one preferred. -/
  | alt (a b : Expr)
  /-- From `min` up to `max` times, more preferred to fewer if `greedy`. -/
  | rep (e : Expr) (min : Nat) (max : Option Nat) (greedy : Bool)
  deriving DecidableEq, Repr, Inhabited

namespace Expr

/-- The expression matches nothing but the empty text. -/
def onlyEmpty : Expr → Bool
  | empty => true
  | literal t => t.isEmpty
  | chars _ => false
  | anchor _ => true
  | group _ _ e => e.onlyEmpty
  | seq a b => a.onlyEmpty && b.onlyEmpty
  | alt a b => a.onlyEmpty && b.onlyEmpty
  | rep e _ max _ => e.onlyEmpty || max == some 0

/-- The least number of characters that the expression reads; missing if a part of it can read no character at all. -/
def leastLength : Expr → Option Nat
  | empty => some 0
  | literal t => some t.length
  | chars s => if s = CharSet.empty then none else some 1
  | anchor _ => some 0
  | group _ _ e => e.leastLength
  | seq a b => do return (← a.leastLength) + (← b.leastLength)
  | alt a b => do return Min.min (← a.leastLength) (← b.leastLength)
  | rep e min _ _ => e.leastLength.map (· * min)

def alwaysReads (e : Expr) : Bool := e.leastLength.any (0 < ·)

def names : Expr → List Text
  | empty => []
  | literal _ => []
  | chars _ => []
  | anchor _ => []
  | group _ n e => n.toList ++ e.names
  | seq a b => a.names ++ b.names
  | alt a b => a.names ++ b.names
  | rep e _ _ _ => e.names

end Expr

end SnippetSync
