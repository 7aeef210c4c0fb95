import Mathlib
import SnippetSync.Pattern.Compile

/-!
# Patterns that are small enough

How many bytes an automaton takes depends on which of its states a table remembers. Whatever the table remembers, they
are no more than if every state were laid out.

* `ByteRange.bytes_forward`, `ByteRange.bytes_backward` — the states for sequences of bytes take at most so much for
  each byte.
* `Expr.byteBound` — bytes that are enough for an expression, told for expressions without choices.
* `Expr.bytes_footprint`, `Expr.fits_of_byteBound` — **they are enough**, so an expression with few of them is not too
  large.
-/

namespace SnippetSync

namespace Footprint

@[simp] theorem bytes_add (n : Nat) (f : Footprint) : (f.add n).bytes = f.bytes + 32 * n := by
  simp only [bytes, add, stateBytes]
  omega

@[simp] theorem bytes_addTransitions (n : Nat) (f : Footprint) :
    (f.addTransitions n).bytes = f.bytes + 32 + 8 * n := by
  simp only [bytes, addTransitions, stateBytes, transitionBytes]
  omega

@[simp] theorem bytes_addAlternatives (n : Nat) (f : Footprint) :
    (f.addAlternatives n).bytes = f.bytes + 32 + 4 * n := by
  simp only [bytes, addAlternatives, stateBytes, alternativeBytes]
  omega

@[simp] theorem bytes_addAlternative (f : Footprint) : f.addAlternative.bytes = f.bytes + 4 := by
  simp only [bytes, addAlternative, alternativeBytes]
  omega

theorem bytes_times {step : Footprint → Footprint} {k : Nat} (h : ∀ f, (step f).bytes ≤ f.bytes + k) (n : Nat)
    (f : Footprint) : (times step n f).bytes ≤ f.bytes + n * k := by
  induction n generalizing f with
  | zero => simp [times]
  | succ n ih =>
    unfold times
    split
    · omega
    · have hstep := h f
      have hrest := ih (step f)
      rw [Nat.succ_mul]
      omega

end Footprint

theorem StateTable.bytes_recall {Key : Type} [DecidableEq Key] (table : StateTable Key) (place : Nat) (key : Key)
    {add : Footprint → Footprint} {f : Footprint} (h : f.bytes ≤ (add f).bytes) :
    (table.recall place key add f).2.2.bytes ≤ (add f).bytes := by
  unfold StateTable.recall
  split
  · split
    · exact h
    · exact Nat.le_refl _
  · exact Nat.le_refl _

namespace ByteRange

def total (sequences : List (List ByteRange)) : Nat := (sequences.map List.length).sum

/-- Grouping takes the first range of each sequence away, which is one for each group at least. -/
theorem sum_groups (sequences : List (List ByteRange)) :
    (groups sequences).length + ((groups sequences).map fun g => total g.2).sum ≤ total sequences := by
  induction sequences with
  | nil => exact Nat.le_refl 0
  | cons l rest ih =>
    cases l with
    | nil => simpa [groups, total] using ih
    | cons r tail =>
      have hcons : total ((r :: tail) :: rest) = tail.length + 1 + total rest := by simp [total]
      rw [hcons]
      cases hgroups : groups rest with
      | nil =>
        simp [groups, hgroups, total]
        omega
      | cons g later =>
        rw [hgroups] at ih
        simp only [groups, hgroups]
        simp only [List.length_cons, List.map_cons, List.sum_cons] at ih
        split
        · simp only [List.length_cons, List.map_cons, List.sum_cons, total] at ih ⊢
          omega
        · simp only [List.length_cons, List.map_cons, List.sum_cons, List.map_nil, List.sum_nil, total] at ih ⊢
          omega

theorem groups_ne_nil {sequences : List (List ByteRange)} (h : sequences.all List.isEmpty ≠ true) :
    groups sequences ≠ [] := by
  induction sequences with
  | nil => exact absurd rfl h
  | cons l rest ih =>
    cases l with
    | nil => exact ih (by simpa using h)
    | cons r tail =>
      simp only [groups]
      split
      · simp
      · split <;> simp

/-- What a fold over groups lists and takes, told by what each step does. -/
theorem foldl_groups {T : Type} {step : Transitions × T × Footprint → ByteRange × List (List ByteRange) →
      Transitions × T × Footprint}
    (h : ∀ a g, (step a g).1.length = a.1.length + 1 ∧ (step a g).2.2.bytes ≤ a.2.2.bytes + 40 * total g.2)
    (gs : List (ByteRange × List (List ByteRange))) (a : Transitions × T × Footprint) :
    (gs.foldl step a).1.length = a.1.length + gs.length ∧
      (gs.foldl step a).2.2.bytes ≤ a.2.2.bytes + 40 * (gs.map fun g => total g.2).sum := by
  induction gs generalizing a with
  | nil => simp
  | cons g gs ih =>
    obtain ⟨hlength, hbytes⟩ := h a g
    obtain ⟨hlength', hbytes'⟩ := ih (step a g)
    rw [List.foldl_cons, List.map_cons, List.sum_cons, List.length_cons]
    exact ⟨by omega, by omega⟩

/-- The states for sequences take at most 40 bytes for each of their bytes. -/
theorem bytes_forward (target : Nat) (sequences : List (List ByteRange)) (table : StateTable Transitions)
    (f : Footprint) (depth : Nat) :
    (forward target sequences table f depth).2.2.bytes ≤ f.bytes + 40 * total sequences := by
  induction depth generalizing sequences table f with
  | zero => exact Nat.le_add_right _ _
  | succ depth ih =>
    unfold forward
    split
    · exact Nat.le_add_right _ _
    · rename_i hne
      have hsum := sum_groups sequences
      have hpos : 0 < (groups sequences).length := List.length_pos_iff.2 (groups_ne_nil hne)
      generalize hout : (groups sequences).foldl _ _ = out
      obtain ⟨hlength, hbytes⟩ : out.1.length = 0 + (groups sequences).length ∧
          out.2.2.bytes ≤ f.bytes + 40 * ((groups sequences).map fun g => total g.2).sum := by
        rw [← hout]
        exact foldl_groups (fun a g => ⟨by simp, ih g.2 a.2.1 a.2.2⟩) (groups sequences) ([], table, f)
      obtain ⟨transitions, table', f'⟩ := out
      dsimp only at hlength hbytes ⊢
      refine Nat.le_trans (StateTable.bytes_recall _ _ _ ?_) ?_
      · rw [Footprint.bytes_addTransitions]
        omega
      · rw [Footprint.bytes_addTransitions]
        omega

theorem bytes_backward (state : Nat) (table : StateTable (Nat × ByteRange)) (f : Footprint) (rs : List ByteRange) :
    (backward state table f rs).2.bytes ≤ f.bytes + 32 * rs.length := by
  induction rs generalizing state table f with
  | nil => exact Nat.le_refl _
  | cons r rs ih =>
    unfold backward
    have hrecall : (table.recall (hashPlace backwardPlaces [state, r.lo, r.hi]) (state, r) (Footprint.add 1)
        f).2.2.bytes ≤ (f.add 1).bytes := StateTable.bytes_recall _ _ _ (by simp)
    rw [Footprint.bytes_add] at hrecall
    generalize table.recall _ _ _ _ = out at hrecall ⊢
    obtain ⟨state', table', f'⟩ := out
    have hrest := ih state' table' f'
    dsimp only at hrecall hrest ⊢
    rw [List.length_cons]
    omega

end ByteRange

/-- Bytes that are enough for one character of a set. -/
def CharSet.byteBound (s : CharSet) : Nat :=
  64 + 8 * s.ranges.length +
    ((s.ranges.flatMap fun r => ByteRange.sequences r.1 r.2).map fun l => 40 * l.length + 4).sum

theorem ByteRange.total_le (sequences : List (List ByteRange)) :
    40 * total sequences ≤ (sequences.map fun l => 40 * l.length + 4).sum := by
  induction sequences with
  | nil => exact Nat.le_refl 0
  | cons l sequences ih =>
    simp only [total, List.map_cons, List.sum_cons] at ih ⊢
    omega

theorem CharSet.bytes_footprint (s : CharSet) (d : Direction) (f : Footprint) :
    (s.footprint d f).bytes ≤ f.bytes + s.byteBound := by
  unfold footprint byteBound
  split
  · simp
    omega
  · generalize s.ranges.flatMap _ = sequences
    cases d with
    | forward =>
      have hforward := ByteRange.bytes_forward f.states sequences {} (f.add 1) 4
      have htotal := ByteRange.total_le sequences
      rw [Footprint.bytes_add] at hforward
      dsimp only
      omega
    | backward =>
      have hfold : ∀ (stop : Nat) (a : StateTable (Nat × ByteRange) × Footprint), (sequences.foldl
          (fun a rs => ((ByteRange.backward stop a.1 a.2 rs).1, (ByteRange.backward stop a.1 a.2 rs).2.addAlternative))
          a).2.bytes ≤ a.2.bytes + (sequences.map fun l => 40 * l.length + 4).sum := by
        intro stop a
        induction sequences generalizing a with
        | nil => exact Nat.le_refl _
        | cons l sequences ih =>
          have hbackward := ByteRange.bytes_backward stop a.1 a.2 l
          rw [List.foldl_cons, List.map_cons, List.sum_cons]
          refine Nat.le_trans (ih _) ?_
          rw [Footprint.bytes_addAlternative]
          omega
      have hsequences := hfold (f.states + 1) ({}, f.add 2)
      rw [Footprint.bytes_add] at hsequences
      dsimp only at hsequences ⊢
      omega

namespace Expr

/-- Bytes that are enough for an expression. Nothing is told of choices, and of repetitions only some are told. -/
def byteBound : Expr → Option Nat
  | literal t => some (32 * t.byteLength)
  | chars s => some s.byteBound
  | group _ _ e => e.byteBound.map (· + 64)
  | seq a b => do return (← a.byteBound) + (← b.byteBound)
  | rep e 0 (some 1) _ => e.byteBound.map (· + 72)
  | rep e 0 none _ => e.byteBound.map (· + 112)
  | rep e (min + 1) none _ => e.byteBound.map fun n => (min + 1) * n + 40
  | _ => none

/-- **They are enough.** -/
theorem bytes_footprint {e : Expr} {n : Nat} (h : e.byteBound = some n) (d : Direction) (f : Footprint) :
    (e.footprint d f).bytes ≤ f.bytes + n := by
  unfold footprint
  fun_induction byteBound e generalizing n f with
  | case1 t =>
    obtain rfl := Option.some.inj h
    simp [footprintAfter, joinBranch]
  | case2 s =>
    obtain rfl := Option.some.inj h
    exact s.bytes_footprint d f
  | case3 i name e ih =>
    obtain ⟨m, hm, rfl⟩ := Option.map_eq_some_iff.1 h
    cases d with
    | forward =>
      have hinside := ih hm (f.add 1)
      simp only [footprintAfter, joinBranch, Footprint.bytes_add] at hinside ⊢
      omega
    | backward =>
      have hinside := ih hm f
      simp only [footprintAfter, joinBranch]
      omega
  | case4 a b iha ihb =>
    simp only [Option.bind_eq_bind, Option.bind_eq_some_iff, Option.pure_def, Option.some.injEq] at h
    obtain ⟨m, hm, m', hm', rfl⟩ := h
    cases d with
    | forward =>
      have hfirst := iha hm f
      have hsecond := ihb hm' (footprintAfter .forward 0 a f)
      simp only [footprintAfter, joinBranch]
      omega
    | backward =>
      have hfirst := ihb hm' f
      have hsecond := iha hm (footprintAfter .backward 0 b f)
      simp only [footprintAfter, joinBranch]
      omega
  | case5 e greedy ih =>
    obtain ⟨m, hm, rfl⟩ := Option.map_eq_some_iff.1 h
    have hinside := ih hm (f.addAlternatives 2)
    simp only [footprintAfter, joinBranch, Footprint.bytes_add, Footprint.bytes_addAlternatives] at hinside ⊢
    omega
  | case6 e greedy ih =>
    obtain ⟨m, hm, rfl⟩ := Option.map_eq_some_iff.1 h
    simp only [footprintAfter, joinBranch]
    split
    · have hinside := ih hm (f.addAlternatives 2)
      rw [Footprint.bytes_addAlternatives] at hinside
      omega
    · have hinside := ih hm f
      simp only [Footprint.bytes_add, Footprint.bytes_addAlternatives]
      omega
  | case7 e min greedy ih =>
    obtain ⟨m, hm, rfl⟩ := Option.map_eq_some_iff.1 h
    have htimes := Footprint.bytes_times (fun f => ih hm f) (min + 1) f
    simp only [footprintAfter, joinBranch, Footprint.bytes_addAlternatives, Nat.succ_eq_add_one]
    omega
  | case8 => cases h

/-- An expression for which few bytes are enough is not too large. -/
theorem fits_of_byteBound {e : Expr} {n : Nat} (h : e.byteBound = some n) (hn : n + 208 ≤ Footprint.limit) :
    e.fits = true := by
  have hsize : ∀ d, e.automatonSize d ≤ n + 208 := by
    intro d
    unfold automatonSize
    have hnone : Footprint.none.bytes = 0 := rfl
    have hstart : (if e.isBound d then Footprint.none.add 1
        else ((Footprint.none.addAlternatives 2).add 1).addTransitions 1).bytes ≤ 112 := by
      split
      · simp [hnone]
      · simp [hnone]
    generalize (if e.isBound d then _ else _ : Footprint) = start at hstart ⊢
    cases d with
    | forward =>
      have hinside := bytes_footprint h .forward (start.add 1)
      simp only [Footprint.bytes_add] at hinside ⊢
      omega
    | backward =>
      have hinside := bytes_footprint h .backward start
      simp only [Footprint.bytes_add]
      omega
  have hforward := hsize .forward
  have hbackward := hsize .backward
  simp only [fits, Bool.and_eq_true, decide_eq_true_eq]
  exact ⟨by omega, by omega⟩

end Expr

end SnippetSync
