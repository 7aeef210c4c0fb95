import SnippetSync.Proofs.Backtracking
import SnippetSync.Proofs.Substitution

/-!
# Where matches lie

Whatever a program looks for, its matches are stretches of the text, one behind the other, and the parts of a block lie
inside the match that has them. All this comes from what a single step does to a thread: it moves the thread to another
instruction, or notes the offset at which a part begins or ends.

* `Cursor.IsIn` — places of a text.
* `Thread.Within`, `Match.Within` — all offsets noted are places of the text, in order.
* `Program.follow_forall` — what every step keeps holds of all threads that wait, and of the one that accepts.
* `Program.find?_within` — **a match lies behind the cursor**, on character boundaries.
* `Span.Before`, `Program.pairwise_findFrom` — **matches do not overlap**, and no two are the same empty place.
-/

namespace SnippetSync

/-- The second span begins where the first one ends or later, and the two are not the same empty place. -/
def Span.Before (s s' : Span) : Prop := s.stop ≤ s'.start ∧ s.start < s'.stop

/-! ## Cursors -/

namespace Cursor

def IsIn (o : Cursor) (t : Text) : Prop := ∃ u, t = u ++ o.rest ∧ Text.byteLength u = o.offset

variable {o : Cursor} {t : Text}

theorem isIn_ofText (t : Text) : (ofText t).IsIn t := ⟨[], rfl, rfl⟩

theorem IsIn.isBoundary (h : o.IsIn t) : t.IsBoundary o.offset := by
  obtain ⟨u, rfl, hu⟩ := h
  exact Text.isBoundary_iff.2 ⟨u, o.rest, rfl, hu⟩

theorem IsIn.step {c : Char} {rest : Text} (h : o.IsIn t) (hrest : o.rest = c :: rest) :
    (o.step c rest).IsIn t := by
  obtain ⟨u, rfl, hu⟩ := h
  refine ⟨u ++ [c], by simp [hrest, Cursor.step], ?_⟩
  show Text.byteLength (u ++ [c]) = o.offset + c.utf8Size
  rw [Text.byteLength_append, hu]
  simp

theorem offset_lt_step (o : Cursor) (c : Char) (rest : Text) : o.offset < (o.step c rest).offset := by
  have := c.utf8Size_pos
  show o.offset < o.offset + c.utf8Size
  omega

theorem IsIn.seek (h : o.IsIn t) (stop : Nat) : (o.seek stop).IsIn t := by
  obtain ⟨before, offset, rest⟩ := o
  show (seek.go stop before offset rest).IsIn t
  induction rest generalizing before offset with
  | nil => exact h
  | cons c rest ih =>
    unfold seek.go
    split
    · exact h
    · exact ih (some c) (offset + c.utf8Size) (h.step rfl)

theorem offset_le_seek (stop : Nat) (o : Cursor) : o.offset ≤ (o.seek stop).offset := by
  obtain ⟨before, offset, rest⟩ := o
  show offset ≤ (seek.go stop before offset rest).offset
  induction rest generalizing before offset with
  | nil => exact Nat.le_refl offset
  | cons c rest ih =>
    unfold seek.go
    split
    · exact Nat.le_refl offset
    · exact Nat.le_trans (Nat.le_add_right _ _) (ih (some c) (offset + c.utf8Size))

theorem IsIn.le_seek (h : o.IsIn t) {stop : Nat} (hstop : stop ≤ t.byteLength) : stop ≤ (o.seek stop).offset := by
  obtain ⟨before, offset, rest⟩ := o
  show stop ≤ (seek.go stop before offset rest).offset
  induction rest generalizing before offset with
  | nil =>
    obtain ⟨u, rfl, hu⟩ := h
    rw [List.append_nil, hu] at hstop
    exact hstop
  | cons c rest ih =>
    unfold seek.go
    split
    · assumption
    · exact ih (some c) (offset + c.utf8Size) (h.step rfl)

end Cursor

/-! ## Threads -/

/-- The thread started at `low` or later, and it stands at the place `now` of the text. What it has noted lies between
its start and this place, and on character boundaries. -/
structure Thread.Within (t : Text) (low now : Nat) (x : Thread) : Prop where
  low_le : low ≤ x.start
  start : t.IsBoundary x.start
  start_le : x.start ≤ now
  entered : ∀ f, t.IsBoundary (x.entered.get f) ∧ x.start ≤ x.entered.get f ∧ x.entered.get f ≤ now
  fields : ∀ f s, x.fields.get f = some s → s.IsIn t ∧ x.start ≤ s.start ∧ s.stop ≤ now

/-- The match begins at `low` or later. It is a stretch of the text, and so are the parts in it. -/
structure Match.Within (t : Text) (low : Nat) (m : Match) : Prop where
  low_le : low ≤ m.span.start
  span : m.span.IsIn t
  fields : ∀ f s, m.fields.get f = some s → s.IsIn t ∧ m.span.start ≤ s.start ∧ s.stop ≤ m.span.stop

theorem Match.Within.mono {t : Text} {low low' : Nat} {m : Match} (h : m.Within t low) (hle : low' ≤ low) :
    m.Within t low' :=
  ⟨Nat.le_trans hle h.low_le, h.span, h.fields⟩

theorem Match.Within.offset_lt_of_step {t : Text} {o : Cursor} {c : Char} {rest : Text} {m : Match}
    (h : m.Within t (o.step c rest).offset) : o.offset < m.span.stop :=
  Nat.lt_of_lt_of_le (o.offset_lt_step c rest) (Nat.le_trans h.low_le h.span.le)

namespace Thread.Within

variable {t : Text} {low now : Nat} {x : Thread}

theorem fresh (hnow : t.IsBoundary now) (hlow : low ≤ now) : (Thread.fresh now).Within t low now := by
  refine ⟨hlow, hnow, Nat.le_refl now, fun f => ?_, fun f s hs => ?_⟩
  · simp [Thread.fresh, hnow]
  · simp [Thread.fresh] at hs

theorem goto (h : x.Within t low now) (a : Nat) : (x.goto a).Within t low now :=
  ⟨h.low_le, h.start, h.start_le, h.entered, h.fields⟩

theorem enter (h : x.Within t low now) (hnow : t.IsBoundary now) (f : Field) : (x.enter f now).Within t low now := by
  refine ⟨h.low_le, h.start, h.start_le, fun g => ?_, h.fields⟩
  show t.IsBoundary ((x.entered.set f now).get g) ∧ x.start ≤ (x.entered.set f now).get g ∧
    (x.entered.set f now).get g ≤ now
  rw [Fields.get_set]
  split
  · exact ⟨hnow, h.start_le, Nat.le_refl now⟩
  · exact h.entered g

theorem leave (h : x.Within t low now) (hnow : t.IsBoundary now) (f : Field) : (x.leave f now).Within t low now := by
  refine ⟨h.low_le, h.start, h.start_le, h.entered, fun g s hs => ?_⟩
  have hs : (x.fields.set f (some ⟨x.entered.get f, now⟩)).get g = some s := hs
  rw [Fields.get_set] at hs
  split at hs
  · obtain ⟨hentered, hstart, hle⟩ := h.entered f
    obtain rfl := Option.some.inj hs
    exact ⟨⟨hle, hentered, hnow⟩, hstart, Nat.le_refl now⟩
  · exact h.fields g s hs

theorem mono {now' : Nat} (h : x.Within t low now) (hle : now ≤ now') : x.Within t low now' := by
  refine ⟨h.low_le, h.start, Nat.le_trans h.start_le hle, fun f => ?_, fun f s hs => ?_⟩
  · obtain ⟨hentered, hstart, hnow⟩ := h.entered f
    exact ⟨hentered, hstart, Nat.le_trans hnow hle⟩
  · obtain ⟨hin, hstart, hnow⟩ := h.fields f s hs
    exact ⟨hin, hstart, Nat.le_trans hnow hle⟩

theorem accept (h : x.Within t low now) (hnow : t.IsBoundary now) : (x.accept now).Within t low :=
  ⟨h.low_le, ⟨h.start_le, h.start, hnow⟩, h.fields⟩

end Thread.Within

/-! ## Searches -/

namespace Program

variable {p : Program} {o : Cursor} {t : Text} {low : Nat}

/-- A property of threads that holds after each step that a thread can take at an offset if it holds before. -/
structure Keeps (offset : Nat) (P : Thread → Prop) : Prop where
  goto : ∀ x a, P x → P (x.goto a)
  enter : ∀ x f, P x → P (x.enter f offset)
  leave : ∀ x f, P x → P (x.leave f offset)

theorem Keeps.moves {P : Thread → Prop} (hP : Keeps o.offset P) {x : Thread} (hx : P x) : ∀ y ∈ p.moves o x, P y := by
  intro y hy
  unfold Program.moves at hy
  split at hy
  · split at hy
    · obtain rfl := List.mem_singleton.1 hy
      exact hP.goto x _ hx
    · cases hy
  · obtain rfl := List.mem_singleton.1 hy
    exact hP.goto x _ hx
  · obtain rfl | hy := List.mem_cons.1 hy
    · exact hP.goto x _ hx
    · obtain rfl := List.mem_singleton.1 hy
      exact hP.goto x _ hx
  · obtain rfl := List.mem_singleton.1 hy
    exact hP.goto _ _ (hP.enter x _ hx)
  · obtain rfl := List.mem_singleton.1 hy
    exact hP.goto _ _ (hP.leave x _ hx)
  · cases hy

/-- **What every step keeps** holds of all threads that wait, and of the one that accepts. -/
theorem follow_forall {P : Thread → Prop} (hP : Keeps o.offset P) {threads : List Thread} {seen : Array Bool}
    (h : ∀ x ∈ threads, P x) :
    (∀ x ∈ (p.follow o threads seen).1, P x) ∧
      ∀ m, (p.follow o threads seen).2 = some m → ∃ x, P x ∧ m = x.accept o.offset := by
  obtain ⟨hwaiting, hfound⟩ := follow_closed (fun _ hx => hP.moves hx) h
  refine ⟨hwaiting, fun m hm => ?_⟩
  obtain ⟨x, hx, -, rfl⟩ := hfound m hm
  exact ⟨x, hx, rfl⟩

theorem keeps_within (ho : o.IsIn t) : Keeps o.offset (Thread.Within t low o.offset) :=
  ⟨fun _ a h => h.goto a, fun _ f h => h.enter ho.isBoundary f, fun _ f h => h.leave ho.isBoundary f⟩

theorem eq_next_of_read? {c : Char} {x y : Thread} (h : p.read? c x = some y) : y = x.next := by
  unfold read? at h
  split at h
  · split at h
    · exact (Option.some.inj h).symm
    · cases h
  · cases h

theorem candidates_within {threads : List Thread} {found : Option Match} (hnow : t.IsBoundary o.offset)
    (hlow : low ≤ o.offset) (h : ∀ x ∈ threads, x.Within t low o.offset) :
    ∀ x ∈ candidates threads found o.offset, x.Within t low o.offset := by
  intro x hx
  unfold candidates at hx
  split at hx
  · rcases List.mem_append.1 hx with hx | hx
    · exact h x hx
    · obtain rfl := List.mem_singleton.1 hx
      exact .fresh hnow hlow
  · exact h x hx

theorem run_step {threads : List Thread} {found : Option Match} {seen : Array Bool} (ho : o.IsIn t)
    (hlow : low ≤ o.offset) (hthreads : ∀ x ∈ threads, x.Within t low o.offset)
    (hfound : ∀ m, found = some m → m.Within t low) :
    let here := p.follow o (candidates threads found o.offset) seen
    (∀ x ∈ here.1, x.Within t low o.offset) ∧ ∀ m, here.2.or found = some m → m.Within t low := by
  intro here
  have hcandidates : ∀ x ∈ candidates threads found o.offset, x.Within t low o.offset :=
    candidates_within ho.isBoundary hlow hthreads
  obtain ⟨hwaiting, hnew⟩ : (∀ x ∈ here.1, x.Within t low o.offset) ∧
      ∀ m, here.2 = some m → ∃ x : Thread, x.Within t low o.offset ∧ m = x.accept o.offset :=
    follow_forall (keeps_within ho) hcandidates
  refine ⟨hwaiting, fun m hm => ?_⟩
  rcases Option.or_eq_some_iff.1 hm with hm | ⟨-, hm⟩
  · obtain ⟨x, hx, rfl⟩ := hnew m hm
    exact hx.accept ho.isBoundary
  · exact hfound m hm

/-- What threads come to that started at `low` or later is a match there. -/
theorem run_within {threads : List Thread} {found : Option Match} {before : Option Char} {offset : Nat} {rest : Text}
    (ho : Cursor.IsIn ⟨before, offset, rest⟩ t) (hlow : low ≤ offset)
    (hthreads : ∀ x ∈ threads, x.Within t low offset) (hfound : ∀ m, found = some m → m.Within t low) {m : Match}
    (hm : p.run threads found before offset rest = some m) : m.Within t low := by
  induction rest generalizing threads found before offset with
  | nil =>
    obtain ⟨-, hnew⟩ := run_step ho hlow hthreads hfound
    exact hnew m hm
  | cons c rest ih =>
    obtain ⟨hwaiting, hnew⟩ := run_step ho hlow hthreads hfound
    unfold run at hm
    dsimp only at hm
    split at hm
    · exact hnew m hm
    · refine ih (ho.step rfl) (Nat.le_trans hlow (Nat.le_add_right _ _)) (fun x hx => ?_) hnew hm
      obtain ⟨y, hy, hread⟩ := List.mem_filterMap.1 hx
      rw [eq_next_of_read? hread]
      exact ((hwaiting y hy).goto _).mono (Nat.le_add_right _ _)

/-- **A match lies behind the cursor**, on character boundaries. -/
theorem find?_within (ho : o.IsIn t) {m : Match} (hm : p.find? o = some m) : m.Within t o.offset := by
  obtain ⟨before, offset, rest⟩ := o
  exact run_within ho (Nat.le_refl offset) (fun x hx => absurd hx List.not_mem_nil)
    (fun m hm => by cases hm) hm

theorem findFrom_within {afterMatch : Bool} (ho : o.IsIn t) :
    ∀ m ∈ p.findFrom afterMatch o, m.Within t o.offset ∧ (afterMatch = true → o.offset < m.span.stop) := by
  fun_induction findFrom p afterMatch o with
  | case1 | case2 => exact fun m hm => absurd hm List.not_mem_nil
  | case3 _ o m hm _ hafter =>
    rw [List.forall_mem_singleton]
    exact ⟨find?_within ho hm, fun h => absurd h hafter⟩
  | case4 o m hm c rest hrest _ _ _ ih =>
    intro m' hm'
    obtain ⟨hwithin, -⟩ := ih (ho.step hrest) m' hm'
    exact ⟨hwithin.mono (Nat.le_of_lt (o.offset_lt_step c rest)), fun _ => hwithin.offset_lt_of_step⟩
  | case5 _ o m hm c rest hrest _ _ _ hafter ih =>
    rw [List.forall_mem_cons]
    refine ⟨⟨find?_within ho hm, fun h => absurd h hafter⟩, fun m' hm' => ?_⟩
    obtain ⟨hwithin, -⟩ := ih (ho.step hrest) m' hm'
    exact ⟨hwithin.mono (Nat.le_of_lt (o.offset_lt_step c rest)), fun _ => hwithin.offset_lt_of_step⟩
  | case6 _ o m hm c rest hrest _ hstop _ ih =>
    rw [List.forall_mem_cons]
    refine ⟨⟨find?_within ho hm, fun _ => Nat.lt_of_not_le hstop⟩, fun m' hm' => ?_⟩
    obtain ⟨hwithin, hlt⟩ := ih ((ho.step hrest).seek _) m' hm'
    have hle : o.offset ≤ ((o.step c rest).seek m.span.stop).offset :=
      Nat.le_trans (Nat.le_of_lt (o.offset_lt_step c rest)) (Cursor.offset_le_seek _ _)
    exact ⟨hwithin.mono hle, fun _ => Nat.lt_of_le_of_lt hle (hlt rfl)⟩

/-- **Matches do not overlap.** -/
theorem pairwise_findFrom {afterMatch : Bool} (ho : o.IsIn t) :
    (p.findFrom afterMatch o).Pairwise fun m m' => m.span.Before m'.span := by
  fun_induction findFrom p afterMatch o with
  | case1 | case2 => exact .nil
  | case3 => exact List.pairwise_singleton _ _
  | case4 o m hm c rest hrest _ _ _ ih => exact ih (ho.step hrest)
  | case5 _ o m hm c rest hrest _ hstop _ _ ih =>
    refine List.pairwise_cons.2 ⟨fun m' hm' => ?_, ih (ho.step hrest)⟩
    have hle := (find?_within ho hm).span.le
    have hlow := (findFrom_within (ho.step hrest) m' hm').1.low_le
    have hlt := (findFrom_within (ho.step hrest) m' hm').1.offset_lt_of_step
    have hstep := o.offset_lt_step c rest
    exact ⟨by omega, by omega⟩
  | case6 _ o m hm c rest hrest _ _ _ ih =>
    have hseek := (ho.step hrest).seek m.span.stop
    refine List.pairwise_cons.2 ⟨fun m' hm' => ?_, ih hseek⟩
    have hspan := (find?_within ho hm).span
    have hle := (ho.step hrest).le_seek hspan.stop.le
    obtain ⟨hwithin, hlt⟩ := findFrom_within hseek m' hm'
    exact ⟨Nat.le_trans hle hwithin.low_le, Nat.lt_of_le_of_lt (Nat.le_trans hspan.le hle) (hlt rfl)⟩

/-- The matches in a text are stretches of it, one behind the other. -/
theorem findAll_within (p : Program) (t : Text) :
    (∀ m ∈ p.findAll t, m.Within t 0) ∧ (p.findAll t).Pairwise fun m m' => m.span.Before m'.span :=
  ⟨fun m hm => (findFrom_within (Cursor.isIn_ofText t) m hm).1, pairwise_findFrom (Cursor.isIn_ofText t)⟩

end Program

end SnippetSync
