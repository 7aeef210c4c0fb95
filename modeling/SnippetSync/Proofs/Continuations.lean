import SnippetSync.Proofs.Backtracking
import SnippetSync.Text.Occurrence

/-!
# What expressions come to, told by what follows

What a thread comes to from an address on depends on what it has noted, on its place and on the text behind it. Told
so, what an expression comes to is told by what comes of that which follows it, and no address is in the way.

* `Continuation` — what a thread comes to; `Continuation.literal`, `Continuation.star` and their like put something
  before it.
* `Expr.Means` — what an expression puts before that which follows it. Of repetitions only some are told.
* `Program.Comes` — what a thread comes to from an address of a program on.
* `Program.Placed` — code stands at an address; `Program.placed_program` and its like say where its pieces stand.
* `Program.comes_of_means` — **the code of an expression does what the expression means.**
-/

namespace SnippetSync

/-- What a thread comes to at an offset with a text behind it. -/
abbrev Continuation := Thread → Nat → Text → Option Match

namespace Continuation

def accept : Continuation := fun x offset _ => some (x.accept offset)

def enter (f : Field) (k : Continuation) : Continuation := fun x offset t => k (x.enter f offset) offset t

def leave (f : Field) (k : Continuation) : Continuation := fun x offset t => k (x.leave f offset) offset t

def literal (w : Text) (k : Continuation) : Continuation := fun x offset t =>
  (Text.after? w t).bind (k x (offset + w.byteLength))

def chars (s : CharSet) (k : Continuation) : Continuation := fun x offset t =>
  match t with
  | [] => none
  | c :: t => if s.contains c then k x (offset + c.utf8Size) t else none

/-- Either of two ways is gone, the first one preferred. -/
def either (k k' : Continuation) : Continuation := fun x offset t => (k x offset t).or (k' x offset t)

/-- Characters of a set are read, more of them preferred to fewer if greedy. -/
def star (s : CharSet) (greedy : Bool) (k : Continuation) : Continuation := fun x offset t =>
  match t with
  | [] => k x offset []
  | c :: t =>
    let more := if s.contains c then star s greedy k x (offset + c.utf8Size) t else none
    if greedy then more.or (k x offset (c :: t)) else (k x offset (c :: t)).or more

def plus (s : CharSet) (greedy : Bool) (k : Continuation) : Continuation := chars s (star s greedy k)

theorem literal_nil (k : Continuation) : literal [] k = k := by
  funext x offset t
  rfl

theorem literal_cons (c : Char) (w : Text) (k : Continuation) :
    literal (c :: w) k = chars (.one c) (literal w k) := by
  funext x offset t
  cases t with
  | nil => rfl
  | cons d t =>
    by_cases h : c = d
    · subst h
      simp [literal, chars, Text.after?, Nat.add_assoc]
    · have h' : d ≠ c := Ne.symm h
      simp [literal, chars, Text.after?, h, h']

end Continuation

/-- What an expression puts before that which follows it. -/
inductive Expr.Means : Expr → (Continuation → Continuation) → Prop
  | literal (w : Text) : Means (.literal w) (.literal w)
  | chars (s : CharSet) : Means (.chars s) (.chars s)
  | part {e : Expr} {d : Continuation → Continuation} (i : Nat) {n : Option Text} {f : Field}
      (name : n.bind Field.ofName? = some f) (inside : Means e d) :
      Means (.group i n e) fun k => .enter f (d (.leave f k))
  | seq {e e' : Expr} {d d' : Continuation → Continuation} (first : Means e d) (second : Means e' d') :
      Means (.seq e e') fun k => d (d' k)
  | optional {e : Expr} {d : Continuation → Continuation} (inside : Means e d) :
      Means (.rep e 0 (some 1) true) fun k => .either (d k) k
  | star {s : CharSet} (ne : s ≠ .empty) (greedy : Bool) : Means (.rep (.chars s) 0 none greedy) (.star s greedy)
  | plus (s : CharSet) (greedy : Bool) : Means (.rep (.chars s) 1 none greedy) (.plus s greedy)

namespace Program

variable {p : Program} {a b c : Nat} {k k' : Continuation}

/-- What a thread comes to from an address on. -/
def Comes (p : Program) (a : Nat) (k : Continuation) : Prop :=
  ∀ x before offset t, p.Leads ⟨before, offset, t⟩ (x.goto a) (k x offset t)

/-- These instructions stand at an address. -/
def Placed (p : Program) (a : Nat) (is : List Instr) : Prop := ∀ i (h : i < is.length), p[a + i]? = some is[i]

theorem Placed.head {i : Instr} {is : List Instr} (h : p.Placed a (i :: is)) : p[a]? = some i :=
  h 0 (Nat.zero_lt_succ _)

theorem Placed.tail {i : Instr} {is : List Instr} (h : p.Placed a (i :: is)) : p.Placed (a + 1) is := by
  intro j hj
  have := h (j + 1) (Nat.succ_lt_succ hj)
  rwa [Nat.add_assoc, Nat.add_comm 1]

theorem Placed.left {is js : List Instr} (h : p.Placed a (is ++ js)) : p.Placed a is := by
  intro j hj
  rw [h j (by simp; omega), List.getElem_append_left hj]

theorem Placed.right {is js : List Instr} (h : p.Placed a (is ++ js)) : p.Placed (a + is.length) js := by
  intro j hj
  rw [Nat.add_assoc, h (is.length + j) (by simp; omega), List.getElem_append_right (by omega)]
  simp

theorem placed_program (e : Expr) : Placed e.program 0 (e.code 0) ∧ e.program[e.size]? = some .accept := by
  have hplaced : Placed e.program 0 (e.code 0 ++ [.accept]) := by
    intro i hi
    rw [Nat.zero_add]
    exact Array.getElem?_eq_getElem hi
  have haccept := hplaced.right.head
  rw [Expr.length_code, Nat.zero_add] at haccept
  exact ⟨hplaced.left, haccept⟩

theorem placed_seq {b c : Expr} (h : p.Placed a ((Expr.seq b c).code a)) :
    p.Placed a (b.code a) ∧ p.Placed (a + b.size) (c.code (a + b.size)) := by
  have hc := h.right
  rw [Expr.length_code] at hc
  exact ⟨h.left, hc⟩

theorem placed_part {e : Expr} {index : Nat} {n : Option Text} {f : Field} (hf : n.bind Field.ofName? = some f)
    (he : p.Placed a ((Expr.group index n e).code a)) :
    p[a]? = some (.enter f) ∧ p.Placed (a + 1) (e.code (a + 1)) ∧ p[a + 1 + e.size]? = some (.leave f) ∧
      a + (Expr.group index n e).size = a + 1 + e.size + 1 := by
  unfold Expr.code at he
  rw [hf] at he
  have hleave := he.tail.right.head
  rw [Expr.length_code] at hleave
  refine ⟨he.head, he.tail.left, hleave, ?_⟩
  simp only [Expr.size, hf, Option.isSome_some, if_true]
  omega

theorem Comes.accept (h : p[a]? = some .accept) : p.Comes a .accept := fun _ _ _ _ => .accept h

theorem Comes.enter {f : Field} (h : p[a]? = some (.enter f)) (hk : p.Comes (a + 1) k) : p.Comes a (.enter f k) :=
  fun x before offset t => .enter h (hk (x.enter f offset) before offset t)

theorem Comes.leave {f : Field} (h : p[a]? = some (.leave f)) (hk : p.Comes (a + 1) k) : p.Comes a (.leave f k) :=
  fun x before offset t => .leave h (hk (x.leave f offset) before offset t)

theorem Leads.or {o : Cursor} {x : Thread} {r r' : Option Match} {first second : Nat}
    (h : p[x.address]? = some (.fork first second)) (hr : p.Leads o (x.goto first) r)
    (hr' : p.Leads o (x.goto second) r') : p.Leads o x (r.or r') := by
  cases r with
  | some m => exact .prefer h hr
  | none => exact .fallback h hr hr'

theorem Comes.either (h : p[a]? = some (.fork b c)) (hk : p.Comes b k) (hk' : p.Comes c k') :
    p.Comes a (.either k k') :=
  fun x before offset t => .or h (hk x before offset t) (hk' x before offset t)

theorem Leads.read_cons {s : CharSet} {x : Thread} {before : Option Char} {offset : Nat} {c : Char} {t : Text}
    {r : Option Match} (h : p[x.address]? = some (.read s))
    (hnext : p.Leads ⟨some c, offset + c.utf8Size, t⟩ x.next r) :
    p.Leads ⟨before, offset, c :: t⟩ x (if s.contains c then r else none) := by
  split
  · rename_i hc
    exact .read h rfl hc hnext
  · rename_i hc
    refine .unread h fun c' rest hchar => ?_
    obtain ⟨rfl, -⟩ : c = c' ∧ t = rest := by simpa using hchar
    simpa using hc

theorem Comes.chars {s : CharSet} (h : p[a]? = some (.read s)) (hk : p.Comes (a + 1) k) : p.Comes a (.chars s k) := by
  intro x before offset t
  cases t with
  | nil => exact .unread h nofun
  | cons c t => exact .read_cons h (hk x (some c) (offset + c.utf8Size) t)

theorem Comes.literal {w : Text} (h : p.Placed a (w.map fun c => .read (.one c))) (hk : p.Comes (a + w.length) k) :
    p.Comes a (.literal w k) := by
  induction w generalizing a with
  | nil =>
    rw [Continuation.literal_nil]
    exact hk
  | cons c w ih =>
    rw [Continuation.literal_cons]
    refine .chars h.head (ih h.tail ?_)
    rwa [Nat.add_assoc, Nat.add_comm 1]

theorem Leads.choice {o : Cursor} {x : Thread} {r r' : Option Match} {greedy : Bool} {inside outside : Nat}
    (h : p[x.address]? = some (Instr.choice greedy inside outside)) (hr : p.Leads o (x.goto inside) r)
    (hr' : p.Leads o (x.goto outside) r') : p.Leads o x (if greedy then r.or r' else r'.or r) := by
  cases greedy with
  | true => exact .or h hr hr'
  | false => exact .or h hr' hr

/-- A loop: at its head a choice between a character and what follows, and behind the character the head again. -/
theorem Comes.star {s : CharSet} {greedy : Bool} {head body stop : Nat}
    (h : p[head]? = some (Instr.choice greedy body stop)) (hread : p[body]? = some (.read s))
    (hagain : ∀ o (x : Thread) r, p.Leads o (x.goto head) r → p.Leads o (x.goto (body + 1)) r) (hk : p.Comes stop k) :
    p.Comes head (.star s greedy k) := by
  intro x before offset t
  induction t generalizing before offset with
  | nil =>
    have hinside : p.Leads ⟨before, offset, []⟩ (x.goto body) none := .unread hread nofun
    have hchoice := Leads.choice (x := x.goto head) h hinside (hk x before offset [])
    simpa [Continuation.star] using hchoice
  | cons c t ih =>
    have hinside : p.Leads ⟨before, offset, c :: t⟩ (x.goto body)
        (if s.contains c then Continuation.star s greedy k x (offset + c.utf8Size) t else none) :=
      .read_cons hread (hagain _ x _ (ih (some c) (offset + c.utf8Size)))
    exact Leads.choice (x := x.goto head) h hinside (hk x before offset (c :: t))

/-- **The code of an expression does what the expression means.** -/
theorem comes_of_means {e : Expr} {d : Continuation → Continuation} (h : e.Means d) (he : p.Placed a (e.code a))
    (hk : p.Comes (a + e.size) k) : p.Comes a (d k) := by
  induction h generalizing a k with
  | literal w => exact .literal he hk
  | chars s => exact .chars he.head hk
  | @part e d i n f name _ ih =>
    obtain ⟨henter, hinside, hleave, haddr⟩ := placed_part name he
    rw [haddr] at hk
    exact .enter henter (ih hinside (.leave hleave hk))
  | @seq e e' d d' _ _ ih ih' =>
    obtain ⟨hfirst, hsecond⟩ := placed_seq he
    refine ih hfirst (ih' hsecond ?_)
    rw [Nat.add_assoc]
    exact hk
  | @optional e d _ ih =>
    have hcode : (Expr.rep e 0 (some 1) true).code a = .choice true (a + 1) (a + (e.size + 1)) :: e.code (a + 1) := by
      simp [Expr.code, List.range_succ]
    have hsize : (Expr.rep e 0 (some 1) true).size = e.size + 1 := by simp [Expr.size]
    rw [hcode] at he
    rw [hsize] at hk
    refine .either he.head (ih he.tail ?_) hk
    rwa [Nat.add_assoc, Nat.add_comm 1]
  | @star s ne greedy =>
    have hreads : (Expr.chars s).alwaysReads = true := by simp [Expr.alwaysReads, Expr.leastLength, ne]
    unfold Expr.code at he
    rw [hreads] at he
    have hread : p[a + 1]? = some (.read s) := he.tail.left.head
    have hjump : p[a + 1 + 1]? = some (.jump a) := he.tail.right.head
    exact .star he.head hread (fun o x r hr => .jump hjump hr) hk
  | @plus s greedy =>
    have hcode : (Expr.rep (.chars s) 1 none greedy).code a = [.read s, .choice greedy a (a + 2)] := by
      simp [Expr.code, Expr.size, List.range_succ]
    rw [hcode] at he
    exact .chars he.head (.star he.tail.head he.head (fun o x r hr => hr) hk)

/-- What a thread comes to that starts a program. -/
theorem leads_of_means {e : Expr} {d : Continuation → Continuation} (h : e.Means d) (before : Option Char)
    (offset : Nat) (t : Text) :
    Leads e.program ⟨before, offset, t⟩ (Thread.fresh offset) (d .accept (Thread.fresh offset) offset t) := by
  obtain ⟨hplaced, haccept⟩ := placed_program e
  rw [← Nat.zero_add e.size] at haccept
  exact comes_of_means h hplaced (.accept haccept) (Thread.fresh offset) before offset t

end Program

end SnippetSync
