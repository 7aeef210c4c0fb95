import SnippetSync.Pattern.Footprint
import SnippetSync.Pattern.Parser
import SnippetSync.Pattern.Program

/-!
# Block patterns

A text is refused as a pattern if it writes no expression or if an automaton of the expression would be too large. A
block pattern has to name the four parts of a block as well.

* `ExprError` — why a text is no pattern, with its wording `ExprError.message`.
* `Expr.ofText` — the expression that a text writes, if it is none too large.
* `Pattern` — a block pattern, ready to run.
* `PatternError` — why a text is no block pattern, with its wording `PatternError.message`.
* `Pattern.ofText` — the block pattern that a text writes.
-/

namespace SnippetSync

inductive ExprError
  /-- It writes no expression. -/
  | malformed
  /-- An automaton takes more than the bytes allowed. -/
  | tooLarge
  deriving DecidableEq, Repr

def ExprError.message : ExprError → Text
  | malformed => "regex parse error:"
  | tooLarge => Text.concat ["Compiled regex exceeds size limit of ", Text.ofNat Footprint.limit, " bytes."]

/-- The automata of an expression are no larger than they may be. -/
def Expr.fits (e : Expr) : Bool :=
  e.automatonSize .forward ≤ Footprint.limit && e.automatonSize .backward ≤ Footprint.limit

def Expr.ofText (t : Text) : Except ExprError Expr :=
  match Expr.parse? t with
  | none => .error .malformed
  | some e => if e.fits then .ok e else .error .tooLarge

structure Pattern where
  program : Program
  deriving Repr

inductive PatternError
  | invalid (e : ExprError)
  /-- No group has the name of this part. -/
  | missing (f : Field)
  deriving DecidableEq, Repr

def PatternError.message : PatternError → Text
  | invalid e => Text.concat ["invalid block pattern: ", e.message]
  | missing f => Text.concat ["block pattern has no named group \x60", f.name, "\x60"]

/-- The block pattern that a text writes. One with a class by a property, as `\pL`, is refused. -/
def Pattern.ofText (t : Text) : Except PatternError Pattern :=
  match Expr.ofText t with
  | .error e => .error (.invalid e)
  | .ok e =>
    match Field.all.find? (!e.names.contains ·.name) with
    | some f => .error (.missing f)
    | none => .ok ⟨e.program⟩

end SnippetSync
