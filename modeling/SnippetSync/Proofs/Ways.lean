import SnippetSync.Proofs.Continuations
import SnippetSync.Proofs.Matching

/-!
# Ways through a program

A search prefers some threads to others and drops some. But whatever it finds, a thread that starts at a place of the
text and goes one of the ways open to it comes to the same. Such a way leads through the code of an expression from its
beginning to its end, and notes no part of a block on it but those that the expression names. So what is noted in a
match is told by the expression, whatever it repeats and whatever else it might have matched.

* `Program.Way` — a match to which a thread comes if it goes the right way.
* `Program.reached_of_findAll` — **every match in a text is reached** by a way from a place of the text.
* `Expr.inside_of_mem_code` — **no instruction of an expression leads anywhere** but into its code or to its end.
* `Thread.Agrees` — two threads have noted the same but for the parts of some names.
* `Program.Way.through`, `Program.Way.part`, `Program.Way.word` — a way through the code of any expression, of a part of
  a block, and of an expression that matches one word alone.
-/

namespace SnippetSync

namespace Program

/-- A match to which a thread at a place comes if it goes the right way, whatever is preferred. -/
inductive Way (p : Program) : Cursor → Thread → Match → Prop
  | accept {o : Cursor} {x : Thread} (instr : p[x.address]? = some .accept) : Way p o x (x.accept o.offset)
  | read {o : Cursor} {x : Thread} {s : CharSet} {c : Char} {rest : Text} {m : Match}
      (instr : p[x.address]? = some (.read s)) (char : o.rest = c :: rest) (mem : s.contains c = true)
      (next : Way p (o.step c rest) x.next m) : Way p o x m
  | move {o : Cursor} {x y : Thread} {m : Match} (mem : y ∈ p.moves o x) (next : Way p o y m) : Way p o x m

variable {p : Program} {o : Cursor} {x y : Thread} {m : Match} {t : Text}

theorem Way.inversion (h : p.Way o x m) :
    match p[x.address]? with
    | some .accept => m = x.accept o.offset
    | some (.read s) => ∃ c rest, o.rest = c :: rest ∧ s.contains c = true ∧ p.Way (o.step c rest) x.next m
    | _ => ∃ y ∈ p.moves o x, p.Way o y m := by
  cases h with
  | accept instr => rw [instr]
  | read instr char mem next =>
    rw [instr]
    exact ⟨_, _, char, mem, next⟩
  | move mem next =>
    split
    · rename_i instr
      rw [moves, instr] at mem
      cases mem
    · rename_i instr
      rw [moves, instr] at mem
      cases mem
    · exact ⟨_, mem, next⟩

/-! ## Searches -/

theorem exists_of_read? {c : Char} (h : p.read? c x = some y) :
    ∃ s, p[x.address]? = some (.read s) ∧ s.contains c = true := by
  unfold read? at h
  split at h
  · rename_i s instr
    split at h
    · rename_i hc
      exact ⟨s, instr, hc⟩
    · cases h
  · cases h

/-- The match is one to which a way comes from a place of the text. -/
def Reached (p : Program) (t : Text) (m : Match) : Prop :=
  ∃ o : Cursor, o.IsIn t ∧ p.Way o (Thread.fresh o.offset) m

theorem reached_step {threads : List Thread} {found : Option Match} {seen : Array Bool} (ho : o.IsIn t)
    (hthreads : ∀ x ∈ threads, ∀ m, p.Way o x m → p.Reached t m) (hfound : ∀ m, found = some m → p.Reached t m) :
    let here := p.follow o (candidates threads found o.offset) seen
    (∀ x ∈ here.1, ∀ m, p.Way o x m → p.Reached t m) ∧ ∀ m, here.2.or found = some m → p.Reached t m := by
  intro here
  have hcandidates : ∀ x ∈ candidates threads found o.offset, ∀ m, p.Way o x m → p.Reached t m := by
    intro x hx
    unfold candidates at hx
    split at hx
    · rcases List.mem_append.1 hx with hx | hx
      · exact hthreads x hx
      · obtain rfl := List.mem_singleton.1 hx
        exact fun m hm => ⟨o, ho, hm⟩
    · exact hthreads x hx
  obtain ⟨hwaiting, hnew⟩ : (∀ x ∈ here.1, ∀ m, p.Way o x m → p.Reached t m) ∧ ∀ m, here.2 = some m →
      ∃ x, (∀ m, p.Way o x m → p.Reached t m) ∧ p[x.address]? = some .accept ∧ m = x.accept o.offset :=
    follow_closed (fun x hx y hy m hm => hx m (.move hy hm)) hcandidates
  refine ⟨hwaiting, fun m hm => ?_⟩
  rcases Option.or_eq_some_iff.1 hm with hm | ⟨-, hm⟩
  · obtain ⟨x, hx, instr, rfl⟩ := hnew m hm
    exact hx _ (.accept instr)
  · exact hfound m hm

theorem reached_of_run {threads : List Thread} {found : Option Match} {before : Option Char} {offset : Nat}
    {rest : Text} (ho : Cursor.IsIn ⟨before, offset, rest⟩ t)
    (hthreads : ∀ x ∈ threads, ∀ m, p.Way ⟨before, offset, rest⟩ x m → p.Reached t m)
    (hfound : ∀ m, found = some m → p.Reached t m) (hm : p.run threads found before offset rest = some m) :
    p.Reached t m := by
  induction rest generalizing threads found before offset with
  | nil =>
    obtain ⟨-, hnew⟩ := reached_step ho hthreads hfound
    exact hnew m hm
  | cons c rest ih =>
    obtain ⟨hwaiting, hnew⟩ := reached_step ho hthreads hfound
    unfold run at hm
    dsimp only at hm
    split at hm
    · exact hnew m hm
    · refine ih (ho.step rfl) (fun x hx m hm => ?_) hnew hm
      obtain ⟨y, hy, hread⟩ := List.mem_filterMap.1 hx
      obtain ⟨s, instr, hmem⟩ := exists_of_read? hread
      rw [eq_next_of_read? hread] at hm
      exact hwaiting y hy m (.read instr rfl hmem hm)

theorem reached_of_find? (ho : o.IsIn t) (hm : p.find? o = some m) : p.Reached t m := by
  obtain ⟨before, offset, rest⟩ := o
  exact reached_of_run ho (fun x hx => absurd hx List.not_mem_nil) (fun m hm => by cases hm) hm

theorem reached_of_findFrom {afterMatch : Bool} (ho : o.IsIn t) : ∀ m ∈ p.findFrom afterMatch o, p.Reached t m := by
  fun_induction findFrom p afterMatch o with
  | case1 | case2 => exact fun m hm => absurd hm List.not_mem_nil
  | case3 _ o m hm => exact List.forall_mem_singleton.2 (reached_of_find? ho hm)
  | case4 o m _ c rest hrest _ _ _ ih => exact ih (ho.step hrest)
  | case5 _ o m hm c rest hrest _ _ _ _ ih =>
    exact List.forall_mem_cons.2 ⟨reached_of_find? ho hm, ih (ho.step hrest)⟩
  | case6 _ o m hm c rest hrest _ _ _ ih =>
    exact List.forall_mem_cons.2 ⟨reached_of_find? ho hm, ih ((ho.step hrest).seek _)⟩

/-- **Every match in a text is one to which a way comes** from a place of the text. -/
theorem reached_of_findAll (h : m ∈ p.findAll t) : p.Reached t m :=
  reached_of_findFrom (Cursor.isIn_ofText t) m h

end Program

/-! ## Code -/

/-- The instruction does not accept. It sends threads to no address but those from `low` to `high`, and notes no part of
a block but those named. -/
def Instr.Inside (names : List Text) (low high : Nat) : Instr → Prop
  | .accept => False
  | .read _ => True
  | .check _ => True
  | .jump target => low ≤ target ∧ target ≤ high
  | .fork first second => (low ≤ first ∧ first ≤ high) ∧ low ≤ second ∧ second ≤ high
  | .enter f => f.name ∈ names
  | .leave f => f.name ∈ names

namespace Instr.Inside

variable {names names' : List Text} {low low' high high' : Nat} {i : Instr}

theorem mono (h : i.Inside names low high) (hnames : names ⊆ names') (hlow : low' ≤ low) (hhigh : high ≤ high') :
    i.Inside names' low' high' := by
  cases i with
  | accept => exact h
  | read | check => trivial
  | jump target => exact ⟨Nat.le_trans hlow h.1, Nat.le_trans h.2 hhigh⟩
  | fork first second =>
    obtain ⟨⟨hl, hh⟩, hl', hh'⟩ := h
    exact ⟨⟨Nat.le_trans hlow hl, Nat.le_trans hh hhigh⟩, Nat.le_trans hlow hl', Nat.le_trans hh' hhigh⟩
  | enter f | leave f => exact hnames h

theorem choice {greedy : Bool} {inside outside : Nat} (hin : low ≤ inside ∧ inside ≤ high)
    (hout : low ≤ outside ∧ outside ≤ high) : (Instr.choice greedy inside outside).Inside names low high := by
  cases greedy with
  | true => exact ⟨hin, hout⟩
  | false => exact ⟨hout, hin⟩

end Instr.Inside

theorem Field.name_of_ofName? {n : Text} {f : Field} (h : ofName? n = some f) : f.name = n := by
  have := List.find?_some h
  simpa using this

theorem Expr.name_mem_names {index : Nat} {n : Option Text} {e : Expr} {f : Field}
    (hf : n.bind Field.ofName? = some f) : f.name ∈ (group index n e).names := by
  obtain ⟨n, rfl, hn⟩ := Option.bind_eq_some_iff.1 hf
  rw [Field.name_of_ofName? hn]
  exact List.mem_append_left _ List.mem_cons_self

theorem Expr.inside_of_mem_code_rep {e : Expr} (he : ∀ a, ∀ i ∈ e.code a, i.Inside e.names a (a + e.size)) (min : Nat)
    (max : Option Nat) (greedy : Bool) (a : Nat) :
    ∀ i ∈ (rep e min max greedy).code a, i.Inside e.names a (a + (rep e min max greedy).size) := by
  intro i hi
  cases max with
  | none =>
    cases min with
    | zero =>
      have hsize : (rep e 0 none greedy).size = e.size + 2 := rfl
      simp only [code, List.mem_append, List.mem_cons, List.not_mem_nil, or_false] at hi
      rw [hsize]
      obtain (rfl | hi) | rfl := hi
      · exact .choice ⟨by omega, by omega⟩ ⟨by omega, by omega⟩
      · exact (he _ i hi).mono (List.Subset.refl _) (by omega) (by omega)
      · split
        · exact ⟨by omega, by omega⟩
        · exact .choice ⟨by omega, by omega⟩ ⟨by omega, by omega⟩
    | succ min =>
      have hsize : (rep e (min + 1) none greedy).size = (min * e.size + e.size) + 1 := by
        rw [← Nat.succ_mul]
        rfl
      simp only [code, List.mem_append, List.mem_flatMap, List.mem_range, List.mem_singleton] at hi
      rw [hsize]
      obtain ⟨k, hk, hi⟩ | rfl := hi
      · have hle : k * e.size ≤ min * e.size := Nat.mul_le_mul_right _ (by omega)
        exact (he _ i hi).mono (List.Subset.refl _) (by omega) (by omega)
      · exact .choice ⟨by omega, by omega⟩ ⟨by omega, by omega⟩
  | some max =>
    have hsize : (rep e min (some max) greedy).size = min * e.size + (max - min) * (e.size + 1) := by
      cases min <;> rfl
    simp only [code, List.mem_append, List.mem_flatMap, List.mem_range, List.mem_cons] at hi
    rw [hsize]
    obtain ⟨k, hk, hi⟩ | ⟨k, hk, hi⟩ := hi
    · have hle : (k + 1) * e.size ≤ min * e.size := Nat.mul_le_mul_right _ hk
      rw [Nat.succ_mul] at hle
      exact (he _ i hi).mono (List.Subset.refl _) (by omega) (by omega)
    · have hle : (k + 1) * (e.size + 1) ≤ (max - min) * (e.size + 1) := Nat.mul_le_mul_right _ hk
      rw [Nat.succ_mul] at hle
      obtain rfl | hi := hi
      · exact .choice ⟨by omega, by omega⟩ ⟨by omega, by omega⟩
      · exact (he _ i hi).mono (List.Subset.refl _) (by omega) (by omega)

/-- **No instruction of an expression leads anywhere but into its code or to its end**, and none notes a part of a block
that the expression does not name. -/
theorem Expr.inside_of_mem_code (e : Expr) (a : Nat) : ∀ i ∈ e.code a, i.Inside e.names a (a + e.size) := by
  induction e generalizing a with
  | empty => exact fun i hi => absurd hi List.not_mem_nil
  | literal t =>
    intro i hi
    obtain ⟨c, -, rfl⟩ := List.mem_map.1 hi
    trivial
  | chars s => exact List.forall_mem_singleton.2 trivial
  | anchor b => exact List.forall_mem_singleton.2 trivial
  | group index n e ih =>
    have hnames : e.names ⊆ (Expr.group index n e).names := List.subset_append_right ..
    unfold code size
    cases hf : n.bind Field.ofName? with
    | none => exact fun i hi => (ih a i hi).mono hnames (Nat.le_refl a) (by simp)
    | some f =>
      intro i hi
      obtain rfl | hi | rfl : i = .enter f ∨ i ∈ e.code (a + 1) ∨ i = .leave f := by simpa using hi
      · exact name_mem_names hf
      · exact (ih (a + 1) i hi).mono hnames (by omega) (by simp only [Option.isSome_some, if_true]; omega)
      · exact name_mem_names hf
  | seq b c ihb ihc =>
    have hsize : (Expr.seq b c).size = b.size + c.size := rfl
    intro i hi
    rw [hsize]
    rcases List.mem_append.1 hi with hi | hi
    · exact (ihb a i hi).mono (List.subset_append_left ..) (by omega) (by omega)
    · exact (ihc _ i hi).mono (List.subset_append_right ..) (by omega) (by omega)
  | alt b c ihb ihc =>
    have hsize : (Expr.alt b c).size = b.size + c.size + 2 := rfl
    intro i hi
    simp only [code, List.mem_append, List.mem_cons] at hi
    rw [hsize]
    obtain (rfl | hi) | rfl | hi := hi
    · exact ⟨by omega, by omega⟩
    · exact (ihb _ i hi).mono (List.subset_append_left ..) (by omega) (by omega)
    · exact ⟨by omega, by omega⟩
    · exact (ihc _ i hi).mono (List.subset_append_right ..) (by omega) (by omega)
  | rep e min max greedy ih => exact inside_of_mem_code_rep ih min max greedy a

/-! ## Ways through code -/

/-- The second thread started where the first one did, and has noted the same of all parts but those named. -/
structure Thread.Agrees (names : List Text) (x y : Thread) : Prop where
  start : y.start = x.start
  entered : ∀ f : Field, f.name ∉ names → y.entered.get f = x.entered.get f
  fields : ∀ f : Field, f.name ∉ names → y.fields.get f = x.fields.get f

namespace Thread.Agrees

variable {names names' : List Text} {x y z : Thread}

theorem refl (names : List Text) (x : Thread) : x.Agrees names x := ⟨rfl, fun _ _ => rfl, fun _ _ => rfl⟩

theorem trans (h : x.Agrees names y) (h' : y.Agrees names z) : x.Agrees names z :=
  ⟨h'.start.trans h.start, fun f hf => (h'.entered f hf).trans (h.entered f hf),
    fun f hf => (h'.fields f hf).trans (h.fields f hf)⟩

theorem mono (h : x.Agrees names y) (hnames : names ⊆ names') : x.Agrees names' y :=
  ⟨h.start, fun f hf => h.entered f fun hmem => hf (hnames hmem), fun f hf => h.fields f fun hmem => hf (hnames hmem)⟩

theorem goto (names : List Text) (x : Thread) (a : Nat) : x.Agrees names (x.goto a) :=
  ⟨rfl, fun _ _ => rfl, fun _ _ => rfl⟩

theorem enter {f : Field} (hf : f.name ∈ names) (x : Thread) (offset : Nat) :
    x.Agrees names (x.enter f offset).next := by
  refine ⟨rfl, fun g hg => ?_, fun _ _ => rfl⟩
  have hne : g ≠ f := fun h => hg (h ▸ hf)
  exact (Fields.get_set x.entered f g offset).trans (if_neg hne)

theorem leave {f : Field} (hf : f.name ∈ names) (x : Thread) (offset : Nat) :
    x.Agrees names (x.leave f offset).next := by
  refine ⟨rfl, fun _ _ => rfl, fun g hg => ?_⟩
  have hne : g ≠ f := fun h => hg (h ▸ hf)
  exact (Fields.get_set x.fields f g _).trans (if_neg hne)

theorem around {f : Field} {offset offset' : Nat} (h : (x.enter f offset).next.Agrees names y) (hf : f.name ∈ names')
    (hnames : names ⊆ names') : x.Agrees names' (y.leave f offset').next :=
  ((enter hf x offset).trans (h.mono hnames)).trans (leave hf y offset')

end Thread.Agrees

namespace Program

variable {p : Program} {o : Cursor} {x y : Thread} {m : Match} {t : Text} {a : Nat} {e : Expr} {index : Nat}
  {n : Option Text} {f : Field}

theorem agrees_of_moves {i : Instr} {names : List Text} {low high : Nat} (hy : y ∈ p.moves o x)
    (instr : p[x.address]? = some i) (hi : i.Inside names low high) (hlow : low ≤ x.address)
    (hhigh : x.address < high) : x.Agrees names y ∧ low ≤ y.address ∧ y.address ≤ high := by
  have hnext : low ≤ x.address + 1 ∧ x.address + 1 ≤ high := by omega
  unfold moves at hy
  rw [instr] at hy
  cases i with
  | accept | read => cases hy
  | check b =>
    obtain ⟨-, rfl⟩ : o.satisfies b = true ∧ y = x.next := by simpa using hy
    exact ⟨.goto names x _, hnext⟩
  | jump target =>
    obtain rfl := List.mem_singleton.1 hy
    exact ⟨.goto names x target, hi⟩
  | fork first second =>
    obtain rfl | rfl : y = x.goto first ∨ y = x.goto second := by simpa using hy
    · exact ⟨.goto names x first, hi.1⟩
    · exact ⟨.goto names x second, hi.2⟩
  | enter f =>
    obtain rfl := List.mem_singleton.1 hy
    exact ⟨.enter hi x o.offset, hnext⟩
  | leave f =>
    obtain rfl := List.mem_singleton.1 hy
    exact ⟨.leave hi x o.offset, hnext⟩

theorem inside_of_placed {b : Nat} (he : p.Placed a (e.code a)) (hlow : a ≤ b) (hhigh : b < a + e.size) :
    ∃ i, p[b]? = some i ∧ i.Inside e.names a (a + e.size) := by
  obtain ⟨k, rfl⟩ := Nat.exists_eq_add_of_le hlow
  have hk : k < (e.code a).length := by
    rw [Expr.length_code]
    omega
  exact ⟨(e.code a)[k], he k hk, e.inside_of_mem_code a _ (List.getElem_mem hk)⟩

namespace Way

/-- **A way leads through code to its end**, and what it notes on it is named there. -/
theorem through (h : p.Way o x m) (he : p.Placed a (e.code a)) (ho : o.IsIn t) (hlow : a ≤ x.address)
    (hhigh : x.address ≤ a + e.size) :
    ∃ o' x', o'.IsIn t ∧ x'.address = a + e.size ∧ x.Agrees e.names x' ∧ p.Way o' x' m := by
  -- a thread at the end of the code is through; one before it goes on to an address that is not behind the end
  induction h with
  | @accept o x instr =>
    rcases Nat.eq_or_lt_of_le hhigh with hend | hlt
    · exact ⟨o, x, ho, hend, .refl _ x, .accept instr⟩
    · obtain ⟨i, hinstr, hi⟩ := inside_of_placed he hlow hlt
      obtain rfl := Option.some.inj (instr.symm.trans hinstr)
      exact hi.elim
  | @read o x s c rest m instr char mem next ih =>
    rcases Nat.eq_or_lt_of_le hhigh with hend | hlt
    · exact ⟨o, x, ho, hend, .refl _ x, .read instr char mem next⟩
    · obtain ⟨o', x', ho', hx', hagrees, hway⟩ := ih (ho.step char) (Nat.le_succ_of_le hlow) hlt
      exact ⟨o', x', ho', hx', (Thread.Agrees.goto e.names x _).trans hagrees, hway⟩
  | @move o x y m mem next ih =>
    rcases Nat.eq_or_lt_of_le hhigh with hend | hlt
    · exact ⟨o, x, ho, hend, .refl _ x, .move mem next⟩
    · obtain ⟨i, hinstr, hi⟩ := inside_of_placed he hlow hlt
      obtain ⟨hxy, hlow', hhigh'⟩ := agrees_of_moves mem hinstr hi hlow hlt
      obtain ⟨o', x', ho', hx', hagrees, hway⟩ := ih ho hlow' hhigh'
      exact ⟨o', x', ho', hx', hxy.trans hagrees, hway⟩

theorem eq_accept (h : p.Way o x m) (instr : p[x.address]? = some .accept) : m = x.accept o.offset := by
  have hend := h.inversion
  rwa [instr] at hend

theorem of_enter (h : p.Way o x m) (instr : p[x.address]? = some (.enter f)) :
    p.Way o (x.enter f o.offset).next m := by
  have hnext := h.inversion
  rw [instr] at hnext
  simpa [moves, instr] using hnext

theorem of_leave (h : p.Way o x m) (instr : p[x.address]? = some (.leave f)) :
    p.Way o (x.leave f o.offset).next m := by
  have hnext := h.inversion
  rw [instr] at hnext
  simpa [moves, instr] using hnext

/-- **A way through a part of a block** notes where it begins and ends. -/
theorem part (h : p.Way o x m) (hf : n.bind Field.ofName? = some f) (he : p.Placed a ((Expr.group index n e).code a))
    (hfe : f.name ∉ e.names) (ho : o.IsIn t) (hx : x.address = a) :
    ∃ o' x', o'.IsIn t ∧ x'.address = a + (Expr.group index n e).size ∧
      x.Agrees (Expr.group index n e).names x' ∧ x'.fields.get f = some ⟨o.offset, o'.offset⟩ ∧ p.Way o' x' m := by
  obtain ⟨henter, hinside, hleave, hsize⟩ := placed_part hf he
  have hentry : (x.enter f o.offset).next.address = a + 1 := congrArg (· + 1) hx
  obtain ⟨o', x', ho', hx', hagrees, hway⟩ :=
    (h.of_enter (hx ▸ henter)).through hinside ho (by omega) (by omega)
  have hentered : x'.entered.get f = o.offset :=
    (hagrees.entered f hfe).trans ((Fields.get_set x.entered f f o.offset).trans (if_pos rfl))
  refine ⟨o', (x'.leave f o'.offset).next, ho', ?_,
    hagrees.around (Expr.name_mem_names hf) (List.subset_append_right ..), ?_, hway.of_leave (hx' ▸ hleave)⟩
  · rw [hsize]
    exact congrArg (· + 1) hx'
  · rw [← hentered]
    exact (Fields.get_set x'.fields f f _).trans (if_pos rfl)

end Way

end Program

/-- The one word that an expression can match, if it can be told that there is but one. -/
def Expr.word? : Expr → Option Text
  | empty => some []
  | literal t => some t
  | chars _ => none
  | anchor _ => some []
  | group _ _ e => e.word?
  | seq a b => do return (← a.word?) ++ (← b.word?)
  | alt _ _ => none
  | rep _ _ _ _ => none

namespace Program

variable {p : Program} {o : Cursor} {x : Thread} {m : Match} {t : Text} {a : Nat} {e : Expr}

theorem Way.literal {w : Text} (h : p.Way o x m) (hw : p.Placed a (w.map fun c => .read (.one c))) (ho : o.IsIn t)
    (hx : x.address = a) :
    ∃ o' x', o'.IsIn t ∧ x'.address = a + w.length ∧ x.Agrees [] x' ∧ o.rest = w ++ o'.rest ∧
      o'.offset = o.offset + w.byteLength ∧ p.Way o' x' m := by
  induction w generalizing a o x with
  | nil => exact ⟨o, x, ho, hx, .refl [] x, rfl, rfl, h⟩
  | cons c w ih =>
    have hnext := h.inversion
    rw [hx, hw.head] at hnext
    obtain ⟨d, rest, hrest, hd, hway⟩ := hnext
    obtain rfl : d = c := by simpa using hd
    obtain ⟨o', x', ho', hx', hagrees, hword, hoffset, hway⟩ :=
      ih hway hw.tail (ho.step hrest) (congrArg (· + 1) hx)
    refine ⟨o', x', ho', ?_, (Thread.Agrees.goto [] x _).trans hagrees, ?_, ?_, hway⟩
    · rw [hx', List.length_cons]
      omega
    · rw [hrest, List.cons_append, ← hword]
      rfl
    · rw [hoffset, Text.byteLength_cons]
      exact Nat.add_assoc ..

/-- **A way through what matches one word alone** reads this word. -/
theorem Way.word {w : Text} (h : p.Way o x m) (hw : e.word? = some w) (he : p.Placed a (e.code a)) (ho : o.IsIn t)
    (hx : x.address = a) :
    ∃ o' x', o'.IsIn t ∧ x'.address = a + e.size ∧ x.Agrees e.names x' ∧ o.rest = w ++ o'.rest ∧
      o'.offset = o.offset + w.byteLength ∧ p.Way o' x' m := by
  induction e generalizing a w o x with
  | empty =>
    obtain rfl := Option.some.inj hw
    exact ⟨o, x, ho, hx, .refl [] x, rfl, rfl, h⟩
  | literal t =>
    obtain rfl := Option.some.inj hw
    exact h.literal he ho hx
  | chars | alt | rep => cases hw
  | anchor b =>
    obtain rfl := Option.some.inj hw
    have hnext := h.inversion
    rw [hx, he.head] at hnext
    obtain ⟨y, hy, hway⟩ := hnext
    obtain ⟨-, rfl⟩ : o.satisfies b = true ∧ y = x.next := by simpa [moves, hx, he.head] using hy
    exact ⟨o, x.next, ho, congrArg (· + 1) hx, .goto [] x _, rfl, rfl, hway⟩
  | group index n e ih =>
    cases hf : n.bind Field.ofName? with
    | none =>
      unfold Expr.code at he
      unfold Expr.size
      rw [hf] at he ⊢
      obtain ⟨o', x', ho', hx', hagrees, hword⟩ := ih h hw he ho hx
      exact ⟨o', x', ho', hx', hagrees.mono (List.subset_append_right ..), hword⟩
    | some f =>
      obtain ⟨henter, hinside, hleave, hsize⟩ := placed_part hf he
      obtain ⟨o', x', ho', hx', hagrees, hword, hoffset, hway⟩ :=
        ih (h.of_enter (hx ▸ henter)) hw hinside ho (congrArg (· + 1) hx)
      refine ⟨o', (x'.leave f o'.offset).next, ho', ?_,
        hagrees.around (Expr.name_mem_names hf) (List.subset_append_right ..), hword, hoffset,
        hway.of_leave (hx' ▸ hleave)⟩
      rw [hsize]
      exact congrArg (· + 1) hx'
  | seq b c ihb ihc =>
    obtain ⟨u, hu, hw⟩ := Option.bind_eq_some_iff.1 hw
    obtain ⟨v, hv, hw⟩ := Option.bind_eq_some_iff.1 hw
    obtain rfl := Option.some.inj hw
    obtain ⟨hb, hc⟩ := placed_seq he
    obtain ⟨o', x', ho', hx', hagrees, hword, hoffset, hway⟩ := ihb h hu hb ho hx
    obtain ⟨o'', x'', ho'', hx'', hagrees', hword', hoffset', hway'⟩ := ihc hway hv hc ho' hx'
    refine ⟨o'', x'', ho'', ?_, (hagrees.mono (List.subset_append_left ..)).trans
      (hagrees'.mono (List.subset_append_right ..)), ?_, ?_, hway'⟩
    · rw [hx'', Expr.size, Nat.add_assoc]
    · rw [hword, hword', List.append_assoc]
    · rw [hoffset', hoffset, Text.byteLength_append, Nat.add_assoc]

end Program

end SnippetSync
