import SnippetSync.Proofs.Substitution

/-!
# What a splicer makes of a text

A splicer rewrites a text from its end and judges an edit by what it has made of the text so far. All this can be said
in offsets of the text that it began with: what stands before the floor is untouched, so the original decides which edit
is refused, and the edits made are one substitution in it.

* `Text.Admits` — edits whose spans follow each other, each standing before all later ones by `Text.Admits.pairwise`; by
  `Text.exists_substitute?_iff` these can be made at once.
* `Text.rewritten` — the text with all spans replaced, put together from pieces of the original.
* `Text.refusal?` — why an edit of the original is refused, by its span and the floor.
* `Splicer.Made` — **the invariant**: a splicer that has made some edits of a text.
* `Splicer.Made.replace_cases` — one more edit is refused just if the original refuses it, and otherwise made.
* `Splicer.replaceAll_reverse_eq_ok_iff` — a run from the last edit to the first comes to its end just if the text
  admits the edits.
-/

namespace SnippetSync

namespace Text

variable {t : Text} {e : Edit} {es : List Edit}

theorem isBoundary_append_left {u : Text} {o : Nat} (h : o ≤ u.byteLength) (v : Text) :
    (u ++ v).IsBoundary o ↔ u.IsBoundary o := by
  constructor
  · intro ho
    obtain ⟨⟨a, b⟩, hab⟩ := Option.isSome_iff_exists.1 ho
    obtain ⟨m, hm, -⟩ := exists_between hab (cut?_append u v) h
    exact isBoundary_iff.2 ⟨a, m, hm, (cut?_eq_some_iff.1 hab).2⟩
  · intro ho
    obtain ⟨a, b, rfl, hab⟩ := isBoundary_iff.1 ho
    exact isBoundary_iff.2 ⟨a, b ++ v, by simp, hab⟩

/-! ## Edits that go together -/

/-- The spans of the edits are stretches of the text in the order of the list: each ends where the next one starts or
before. -/
def Admits (t : Text) : List Edit → Prop
  | [] => True
  | e :: es => e.span.IsIn t ∧ e.span.stop ≤ Splicer.start t es ∧ t.Admits es

theorem admits_of_pairwise (hin : ∀ e ∈ es, e.span.IsIn t)
    (hes : es.Pairwise fun e e' => e.span.stop ≤ e'.span.start) : t.Admits es := by
  induction es with
  | nil => trivial
  | cons e es ih =>
    obtain ⟨he, hin⟩ := List.forall_mem_cons.1 hin
    obtain ⟨hstop, hes⟩ := List.pairwise_cons.1 hes
    refine ⟨he, ?_, ih hin hes⟩
    cases es with
    | nil => exact he.stop.le
    | cons e' es => exact hstop e' List.mem_cons_self

theorem Admits.start_le (h : t.Admits es) : ∀ e ∈ es, Splicer.start t es ≤ e.span.start := by
  induction es with
  | nil => exact fun e he => absurd he List.not_mem_nil
  | cons e es ih =>
    obtain ⟨hin, hstop, hes⟩ := h
    intro d hd
    rw [Splicer.start]
    rcases List.mem_cons.1 hd with rfl | hd
    · exact Nat.le_refl _
    · have hle := hin.le
      have hrest := ih hes d hd
      omega

theorem Admits.isIn (h : t.Admits es) : ∀ e ∈ es, e.span.IsIn t := by
  induction es with
  | nil => exact fun e he => absurd he List.not_mem_nil
  | cons e es ih =>
    obtain ⟨hin, -, hes⟩ := h
    exact List.forall_mem_cons.2 ⟨hin, ih hes⟩

theorem Admits.pairwise (h : t.Admits es) : es.Pairwise fun a b => a.span.stop ≤ b.span.start := by
  induction es with
  | nil => exact List.Pairwise.nil
  | cons e es ih =>
    obtain ⟨-, hstop, hes⟩ := h
    exact List.pairwise_cons.2 ⟨fun d hd => Nat.le_trans hstop (hes.start_le d hd), ih hes⟩

/-- The text between two offsets. -/
def between (t : Text) (a b : Nat) : Text := (t.slice? ⟨a, b⟩).getD []

/-- The text from an offset on, in which the spans of the edits are replaced and what stands between them is kept. -/
def rewritten (t : Text) (offset : Nat) : List Edit → Text
  | [] => t.between offset t.byteLength
  | e :: es => t.between offset e.span.start ++ e.replacement ++ t.rewritten e.span.stop es

theorem between_append (u m v : Text) : (u ++ m ++ v).between u.byteLength (u ++ m).byteLength = m := by
  have hslice : (u ++ m ++ v).slice? ⟨u.byteLength, (u ++ m).byteLength⟩ = some m :=
    slice?_eq_some_iff.2 ⟨u, v, rfl, rfl, rfl⟩
  rw [between, hslice, Option.getD_some]

theorem eq_rewritten_of_substitute? {before r s : Text} (h : r.substitute? before.byteLength es = some s) :
    s = (before ++ r).rewritten before.byteLength es := by
  induction es generalizing before r s with
  | nil =>
    obtain rfl : r = s := by simpa [substitute?] using h
    have hbetween := between_append before r []
    rw [List.append_nil] at hbetween
    rw [rewritten, hbetween]
  | cons e es ih =>
    obtain ⟨kept, old, r, s, rfl, hstart, hstop, hs, rfl⟩ := substitute?_cons_eq_some_iff.1 h
    have hstart' : e.span.start = (before ++ kept).byteLength := by rw [hstart, byteLength_append]
    have hstop' : e.span.stop = (before ++ (kept ++ old)).byteLength := by
      simp only [byteLength_append]
      omega
    rw [hstop'] at hs
    have hkept := between_append before kept (old ++ r)
    have hrest := ih hs
    rw [show before ++ kept ++ (old ++ r) = before ++ (kept ++ old ++ r) by simp] at hkept
    rw [show before ++ (kept ++ old) ++ r = before ++ (kept ++ old ++ r) by simp] at hrest
    rw [rewritten, hstart', hkept, hstop', ← hrest]

theorem substitute?_of_admits {before r : Text} (h : (before ++ r).Admits es)
    (hle : before.byteLength ≤ Splicer.start (before ++ r) es) :
    ∃ s, r.substitute? before.byteLength es = some s := by
  induction es generalizing before r with
  | nil => exact ⟨r, rfl⟩
  | cons e es ih =>
    obtain ⟨hin, hstop, hes⟩ := h
    obtain ⟨old, hold⟩ := hin.exists_slice?
    obtain ⟨u, v, ht, hu, hv⟩ := slice?_eq_some_iff.1 hold
    -- this edit starts behind the text before, so what stands between is kept
    have hcut : (before ++ r).cut? e.span.start = some (u, old ++ v) :=
      cut?_eq_some_iff.2 ⟨by rw [ht, List.append_assoc], hu⟩
    obtain ⟨kept, rfl, rfl⟩ := exists_between (cut?_append before r) hcut hle
    rw [ht] at hes hstop
    rw [← hv] at hstop
    obtain ⟨s, hs⟩ := ih hes hstop
    rw [hv] at hs
    refine ⟨_, substitute?_cons_eq_some_iff.2 ⟨kept, old, v, s, by simp, ?_, ?_, hs, rfl⟩⟩
    · rw [← hu, byteLength_append]
    · rw [← hv, byteLength_append, hu]

theorem admits_of_substitute? {before r s : Text} (h : r.substitute? before.byteLength es = some s) :
    (before ++ r).Admits es ∧ before.byteLength ≤ Splicer.start (before ++ r) es := by
  induction es generalizing before r s with
  | nil => exact ⟨trivial, by simp [Splicer.start]⟩
  | cons e es ih =>
    obtain ⟨kept, old, r, s, rfl, hstart, hstop, hs, rfl⟩ := substitute?_cons_eq_some_iff.1 h
    have hstop' : e.span.stop = (before ++ (kept ++ old)).byteLength := by
      simp only [byteLength_append]
      omega
    rw [hstop'] at hs
    obtain ⟨hes, hle⟩ := ih hs
    rw [show before ++ (kept ++ old) ++ r = before ++ (kept ++ old ++ r) by simp] at hes hle
    have hslice : (before ++ (kept ++ old ++ r)).slice? e.span = some old := by
      refine slice?_eq_some_iff.2 ⟨before ++ kept, r, by simp, ?_, ?_⟩
      · rw [hstart, byteLength_append]
      · rw [hstop', List.append_assoc]
    refine ⟨⟨Span.isIn_of_slice? hslice, hstop' ▸ hle, hes⟩, ?_⟩
    rw [Splicer.start, hstart]
    omega

/-- **Edits can be made at once just if their spans follow each other.** -/
theorem exists_substitute?_iff : (∃ s, t.substitute? 0 es = some s) ↔ t.Admits es := by
  constructor
  · rintro ⟨s, hs⟩
    have hs : t.substitute? (byteLength []) es = some s := hs
    exact (admits_of_substitute? hs).1
  · intro h
    have h : Admits ([] ++ t) es := h
    exact substitute?_of_admits h (Nat.zero_le _)

theorem substitute?_eq_some_iff {s : Text} : t.substitute? 0 es = some s ↔ t.Admits es ∧ s = t.rewritten 0 es := by
  constructor
  · intro h
    have h' : t.substitute? (byteLength []) es = some s := h
    exact ⟨exists_substitute?_iff.1 ⟨s, h⟩, eq_rewritten_of_substitute? h'⟩
  · rintro ⟨hes, rfl⟩
    obtain ⟨s, hs⟩ := exists_substitute?_iff.2 hes
    have hs' : t.substitute? (byteLength []) es = some s := hs
    rw [hs, eq_rewritten_of_substitute? hs']
    rfl

theorem exists_of_substitute?_append {u v s : Text} (h : (u ++ v).substitute? 0 es = some s)
    (hle : u.byteLength ≤ Splicer.start (u ++ v) es) :
    ∃ w, v.substitute? u.byteLength es = some w ∧ s = u ++ w := by
  cases es with
  | nil => exact ⟨v, rfl, by simpa [substitute?, eq_comm] using h⟩
  | cons e es =>
    obtain ⟨kept, old, r, s, ht, hstart, hstop, hs, rfl⟩ := substitute?_cons_eq_some_iff.1 h
    have hcut : (u ++ v).cut? e.span.start = some (kept, old ++ r) :=
      cut?_eq_some_iff.2 ⟨by rw [ht, List.append_assoc], by rw [hstart, Nat.zero_add]⟩
    obtain ⟨m, rfl, rfl⟩ := exists_between (cut?_append u v) hcut hle
    rw [Nat.zero_add, byteLength_append] at hstart
    exact ⟨_, substitute?_cons_eq_some_iff.2 ⟨m, old, r, s, by simp, hstart, hstop, hs, rfl⟩, by simp⟩

/-! ## Refusals -/

/-- Why the replacement of a span of the text is refused, if what follows the floor is replaced already. -/
def refusal? (t : Text) (floor : Nat) (s : Span) : Option Refusal :=
  if s.stop < s.start then some (.inverted s)
  else if floor < s.stop then some (.pastFloor s floor)
  else if ¬ t.IsBoundary s.start then some (.insideCharacter s.start)
  else if ¬ t.IsBoundary s.stop then some (.insideCharacter s.stop)
  else none

theorem refusal?_eq_none_iff {floor : Nat} {s : Span} : t.refusal? floor s = none ↔ s.IsIn t ∧ s.stop ≤ floor := by
  unfold refusal?
  constructor
  · intro h
    split at h; · cases h
    split at h; · cases h
    split at h; · cases h
    split at h; · cases h
    rename_i hle hfloor hstart hstop
    exact ⟨⟨by omega, Decidable.not_not.1 hstart, Decidable.not_not.1 hstop⟩, by omega⟩
  · rintro ⟨⟨hle, hstart, hstop⟩, hfloor⟩
    rw [if_neg (by omega), if_neg (by omega), if_neg (by simpa using hstart), if_neg (by simpa using hstop)]

end Text

namespace Splicer

variable {t : Text} {e : Edit} {es : List Edit} {s : Splicer}

/-- A splicer that has made these edits of the text, the first one last. -/
structure Made (t : Text) (es : List Edit) (s : Splicer) : Prop where
  text : t.substitute? 0 es = some s.text
  floor : s.floor = start t es

theorem made_ofText (t : Text) : Made t [] (ofText t) := ⟨rfl, rfl⟩

namespace Made

theorem admits (h : Made t es s) : t.Admits es := Text.exists_substitute?_iff.1 ⟨_, h.text⟩

theorem text_eq (h : Made t es s) : s.text = t.rewritten 0 es := (Text.substitute?_eq_some_iff.1 h.text).2

/-- What stands before the floor is what stood there at first. -/
theorem exists_untouched (h : Made t es s) : ∃ u v w, t = u ++ v ∧ s.text = u ++ w ∧ u.byteLength = s.floor := by
  have hfloor : t.IsBoundary (start t es) := by
    cases es with
    | nil => exact Text.isBoundary_iff.2 ⟨t, [], by simp, rfl⟩
    | cons e es => exact h.admits.1.start
  obtain ⟨u, v, rfl, hu⟩ := Text.isBoundary_iff.1 hfloor
  obtain ⟨w, -, hw⟩ := Text.exists_of_substitute?_append h.text (Nat.le_of_eq hu)
  exact ⟨u, v, w, rfl, hw, by rw [hu, h.floor]⟩

theorem isBoundary_iff (h : Made t es s) {o : Nat} (ho : o ≤ s.floor) : s.text.IsBoundary o ↔ t.IsBoundary o := by
  obtain ⟨u, v, w, rfl, hw, hu⟩ := h.exists_untouched
  rw [← hu] at ho
  rw [hw, Text.isBoundary_append_left ho, Text.isBoundary_append_left ho]

theorem replace_of_isIn (h : Made t es s) (hin : e.span.IsIn t) (hstop : e.span.stop ≤ s.floor) :
    ∃ s', s.replace e = .ok s' ∧ Made t (e :: es) s' := by
  obtain ⟨old, hold⟩ := hin.exists_slice?
  obtain ⟨u, v, rfl, hu, hv⟩ := Text.slice?_eq_some_iff.1 hold
  have hle : (u ++ old).byteLength ≤ start (u ++ old ++ v) es := by
    rw [hv, ← h.floor]
    exact hstop
  obtain ⟨w, hw, htext⟩ := Text.exists_of_substitute?_append h.text hle
  rw [hv] at hw
  refine ⟨⟨u ++ e.replacement ++ w, e.span.start⟩, ?_, ?_, rfl⟩
  · exact replace_eq_ok_iff.2 ⟨hin.le, hstop, u, old, w, htext, hu, hv, rfl⟩
  · refine Text.substitute?_cons_eq_some_iff.2 ⟨u, old, v, w, rfl, ?_, ?_, hw, rfl⟩
    · rw [hu, Nat.zero_add]
    · rw [← hv, Text.byteLength_append, hu]

/-- An edit is refused just if the original refuses it. -/
theorem replace_eq_error_iff (h : Made t es s) {r : Refusal} :
    s.replace e = .error r ↔ t.refusal? s.floor e.span = some r := by
  unfold replace Text.refusal?
  by_cases hle : e.span.stop < e.span.start
  · simp [hle]
  by_cases hfloor : s.floor < e.span.stop
  · simp [hle, hfloor]
  have hstart : s.text.IsBoundary e.span.start ↔ t.IsBoundary e.span.start := h.isBoundary_iff (by omega)
  have hstop : s.text.IsBoundary e.span.stop ↔ t.IsBoundary e.span.stop := h.isBoundary_iff (by omega)
  by_cases hs : t.IsBoundary e.span.start
  · obtain ⟨p, hp⟩ := Option.isSome_iff_exists.1 (hstart.2 hs)
    by_cases he : t.IsBoundary e.span.stop
    · obtain ⟨q, hq⟩ := Option.isSome_iff_exists.1 (hstop.2 he)
      simp [hle, hfloor, hs, he, hp, hq]
    · have hq : s.text.cut? e.span.stop = none := Option.not_isSome_iff_eq_none.1 (mt hstop.1 he)
      simp [hle, hfloor, hs, he, hp, hq]
  · have hp : s.text.cut? e.span.start = none := Option.not_isSome_iff_eq_none.1 (mt hstart.1 hs)
    simp [hle, hfloor, hs, hp]

/-- **One more edit**: it is refused just if the original refuses it, and otherwise it is made. -/
theorem replace_cases (h : Made t es s) (e : Edit) :
    (∃ r, t.refusal? s.floor e.span = some r ∧ s.replace e = .error r) ∨
      (t.refusal? s.floor e.span = none ∧ ∃ s', s.replace e = .ok s' ∧ Made t (e :: es) s') := by
  cases hr : t.refusal? s.floor e.span with
  | some r => exact .inl ⟨r, rfl, h.replace_eq_error_iff.2 hr⟩
  | none =>
    obtain ⟨hin, hstop⟩ := Text.refusal?_eq_none_iff.1 hr
    exact .inr ⟨rfl, h.replace_of_isIn hin hstop⟩

end Made

/-- **A run from the last edit to the first** comes to its end just if the text admits the edits. -/
theorem replaceAll_reverse_eq_ok_iff : (ofText t).replaceAll es.reverse = .ok s ↔ Made t es s := by
  constructor
  · intro h
    induction es generalizing s with
    | nil =>
      obtain rfl : ofText t = s := Except.ok.inj h
      exact made_ofText t
    | cons e es ih =>
      rw [List.reverse_cons, replaceAll_append_eq] at h
      cases hes : (ofText t).replaceAll es.reverse with
      | error r => rw [hes] at h; cases h
      | ok s₁ =>
        rw [hes] at h
        have hstep : (s₁.replace e).bind (replaceAll · []) = .ok s := h
        rcases (ih hes).replace_cases e with ⟨r, -, hr⟩ | ⟨-, s', hs', hmade⟩
        · rw [hr] at hstep; cases hstep
        · rw [hs'] at hstep
          obtain rfl : s' = s := Except.ok.inj hstep
          exact hmade
  · rintro ⟨htext, hfloor⟩
    have htext : t.substitute? (Text.byteLength []) es = some s.text := htext
    have hall := replaceAll_reverse htext
    obtain ⟨text, floor⟩ := s
    obtain rfl : floor = start t es := hfloor
    exact hall

end Splicer

end SnippetSync
