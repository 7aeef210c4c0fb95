import SnippetSync.Pattern.Basic

/-!
# Programs

A pattern is run as a program: a sequence of instructions, of which a thread follows one after the other unless an
instruction sends it elsewhere. A fork sends one thread to two places, the first of them preferred.

* `Instr`, `Program` — instructions and programs.
* `Expr.size` — the number of instructions of an expression.
* `Expr.code` — the instructions of an expression placed at an address; a thread that reaches the address behind them
  has matched the expression. `Expr.length_code` says that they are as many as `Expr.size` counts.
* `Expr.program` — the program of an expression.
-/

namespace SnippetSync

inductive Instr
  | accept
  | read (s : CharSet)
  /-- Go on if the condition holds here. -/
  | check (a : Anchor)
  | jump (target : Nat)
  /-- Go on at both places, the first preferred. -/
  | fork (first second : Nat)
  | enter (f : Field)
  | leave (f : Field)
  deriving Repr, Inhabited

/-- A fork that prefers `inside` to `outside` if greedy. -/
def Instr.choice (greedy : Bool) (inside outside : Nat) : Instr :=
  if greedy then fork inside outside else fork outside inside

/-- The instructions at the addresses from zero on. -/
abbrev Program := Array Instr

namespace Expr

def size : Expr → Nat
  | empty => 0
  | literal t => t.length
  | chars _ => 1
  | anchor _ => 1
  | group _ n e => if (n.bind Field.ofName?).isSome then e.size + 2 else e.size
  | seq a b => a.size + b.size
  | alt a b => a.size + b.size + 2
  | rep e 0 none _ => e.size + 2
  | rep e (min + 1) none _ => (min + 1) * e.size + 1
  | rep e min (some max) _ => min * e.size + (max - min) * (e.size + 1)

/-- The instructions of an expression at an address. -/
def code (addr : Nat) : Expr → List Instr
  | empty => []
  | literal t => t.map fun c => .read (.one c)
  | chars s => [.read s]
  | anchor a => [.check a]
  | group _ n e =>
    match n.bind Field.ofName? with
    | some f => .enter f :: e.code (addr + 1) ++ [.leave f]
    | none => e.code addr
  | seq a b => a.code addr ++ b.code (addr + a.size)
  | alt a b =>
    let second := addr + a.size + 2
    .fork (addr + 1) second :: a.code (addr + 1) ++ .jump (second + b.size) :: b.code second
  | rep e 0 none greedy =>
    let stop := addr + e.size + 2
    let again : Instr := if e.alwaysReads then .jump addr else .choice greedy (addr + 1) stop
    .choice greedy (addr + 1) stop :: e.code (addr + 1) ++ [again]
  | rep e (min + 1) none greedy =>
    let last := addr + min * e.size
    (List.range (min + 1)).flatMap (fun i => e.code (addr + i * e.size))
      ++ [.choice greedy last (last + e.size + 1)]
  | rep e min (some max) greedy =>
    let optional := addr + min * e.size
    let stop := optional + (max - min) * (e.size + 1)
    (List.range min).flatMap (fun i => e.code (addr + i * e.size))
      ++ (List.range (max - min)).flatMap fun i =>
        let here := optional + i * (e.size + 1)
        .choice greedy (here + 1) stop :: e.code (here + 1)

theorem length_code (e : Expr) (a : Nat) : (e.code a).length = e.size := by
  induction e generalizing a with
  | empty => rfl
  | literal t => simp [code, size]
  | chars _ => rfl
  | anchor _ => rfl
  | group _ n e ih =>
    unfold code size
    split <;> simp_all
  | seq b c ihb ihc => simp [code, size, ihb, ihc]
  | alt b c ihb ihc => simp [code, size, ihb, ihc]; omega
  | rep e min max greedy ih =>
    match min, max with
    | 0, none => simp [code, size, ih]
    | min + 1, none => simp [code, size, List.length_flatMap, ih, List.map_const']
    | min, some max => simp [code, size, List.length_flatMap, ih, List.map_const']

def program (e : Expr) : Program := (e.code 0 ++ [Instr.accept]).toArray

end Expr

end SnippetSync
