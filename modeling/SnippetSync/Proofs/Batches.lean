import SnippetSync.Edit.Batch
import SnippetSync.Proofs.Splicing

/-!
# Batches in any order

A batch is sorted and then made edit by edit, each being judged by the one before. What comes of it can be said without
any order: the batch is accepted just if its spans are stretches of the text and no two of them overlap, and the order
in which it is given plays no role but for several insertions at one place.

* `Span.Apart`, `Span.Precedes` — two spans that do not overlap, and the order of spans in a text.
* `Edit.Arranged` — a batch in the order of the text: there is one such arrangement, and the sorted batch reverses it.
* `Text.admits_iff_of_ordered` — a chain of edits, each judged by the next one, against a condition on any two.
* `Text.replaceAll_eq_ok_iff` — a batch that is accepted makes one substitution.
* `Text.firstRefusal?` — what refuses a list of spans; by `Splicer.Made.replaceAll_eq_error_iff` a run fails with this,
  whatever the replacements are.
* `batch_accepted_iff_apart` — **a batch is accepted just if its edits are apart**, and then all are made at once.
* `batch_of_perm` — **the order of a batch plays no role**, neither for what comes of it nor for what it fails with.
-/

namespace SnippetSync

/-! ## Spans -/

namespace Span

variable {a b : Span}

/-- One of two spans ends where the other one starts or before. Spans that touch are apart, as are equal empty ones. -/
def Apart (a b : Span) : Prop := a.stop ≤ b.start ∨ b.stop ≤ a.start

/-- The order of spans in a text: the earlier start comes first, and of one start the earlier end. -/
def Precedes (a b : Span) : Prop := a.start < b.start ∨ a.start = b.start ∧ a.stop ≤ b.stop

theorem Apart.symm (h : a.Apart b) : b.Apart a := Or.symm h

theorem Precedes.refl (a : Span) : a.Precedes a := .inr ⟨rfl, Nat.le_refl _⟩

theorem Precedes.antisymm (h : a.Precedes b) (h' : b.Precedes a) : a = b := by
  obtain ⟨astart, astop⟩ := a
  obtain ⟨bstart, bstop⟩ := b
  unfold Precedes at h h'
  simp only [Span.mk.injEq] at h h' ⊢
  omega

theorem Apart.start_eq_stop (h : a.Apart b) (hab : a = b) (ha : a.start ≤ a.stop) : a.start = a.stop := by
  subst hab
  unfold Apart at h
  omega

theorem Precedes.stop_le (h : a.Precedes b) (hapart : a.Apart b) (hb : b.start ≤ b.stop) : a.stop ≤ b.start := by
  unfold Precedes at h
  unfold Apart at hapart
  omega

theorem isIn_iff {s : Span} {t : Text} : s.IsIn t ↔
    s.start ≤ s.stop ∧ s.stop ≤ t.byteLength ∧ t.IsBoundary s.start ∧ t.IsBoundary s.stop := by
  constructor
  · intro h
    exact ⟨h.le, h.stop.le, h.start, h.stop⟩
  · rintro ⟨hle, -, hstart, hstop⟩
    exact ⟨hle, hstart, hstop⟩

end Span

/-! ## The order of a batch -/

namespace Edit

variable {edits es es' : List Edit}

/-- The edits of a batch in the order of the text, those of one span in the reverse of the order in which they are
given. -/
structure Arranged (edits es : List Edit) : Prop where
  perm : es.Perm edits
  ordered : es.Pairwise fun a b => a.span.Precedes b.span
  ties : ∀ s, es.filter (·.span = s) = (edits.filter (·.span = s)).reverse

theorem lastFirst_iff {a b : Edit} : lastFirst a b ↔ b.span.Precedes a.span := by
  simp only [lastFirst, Span.Precedes, Bool.or_eq_true, decide_eq_true_eq, Bool.and_eq_true, beq_iff_eq]

/-- To sort a batch leaves edits of one span in the order in which they are given. -/
theorem filter_mergeSort (edits : List Edit) (s : Span) :
    (edits.mergeSort lastFirst).filter (·.span = s) = edits.filter (·.span = s) := by
  have hsorted : (edits.filter (·.span = s)).Pairwise fun a b => lastFirst a b := by
    apply List.pairwise_of_forall_mem_list
    intro a ha b hb
    have hspan : a.span = b.span := by
      rw [of_decide_eq_true (List.mem_filter.1 ha).2, of_decide_eq_true (List.mem_filter.1 hb).2]
    rw [lastFirst_iff, hspan]
    exact Span.Precedes.refl _
  have htrans : ∀ a b c : Edit, lastFirst a b → lastFirst b c → lastFirst a c := fun _ _ _ => lastFirst_trans
  have hsublist : (edits.filter (·.span = s)).Sublist (edits.mergeSort lastFirst) :=
    List.sublist_mergeSort htrans lastFirst_total hsorted List.filter_sublist
  have hfilter := hsublist.filter fun e => decide (e.span = s)
  simp only [List.filter_filter, Bool.and_self] at hfilter
  exact (hfilter.eq_of_length ((List.mergeSort_perm edits lastFirst).filter _).length_eq.symm).symm

theorem arranged_mergeSort (edits : List Edit) : Arranged edits (edits.mergeSort lastFirst).reverse := by
  refine ⟨(List.reverse_perm _).trans (List.mergeSort_perm edits lastFirst), ?_, fun s => ?_⟩
  · rw [List.pairwise_reverse]
    exact (pairwise_lastFirst edits).imp lastFirst_iff.1
  · rw [List.filter_reverse, filter_mergeSort]

theorem mem_iff_of_filter_eq (h : ∀ s, es.filter (·.span = s) = es'.filter (·.span = s)) (e : Edit) :
    e ∈ es ↔ e ∈ es' := by
  have hspan := congrArg (e ∈ ·) (h e.span)
  simpa using hspan

/-- Lists in the order of the text are the same if they have the same edits of every span, one after the other. -/
theorem eq_of_filter_eq (hes : es.Pairwise fun a b => a.span.Precedes b.span)
    (hes' : es'.Pairwise fun a b => a.span.Precedes b.span)
    (h : ∀ s, es.filter (·.span = s) = es'.filter (·.span = s)) : es = es' := by
  induction es generalizing es' with
  | nil =>
    symm
    exact List.eq_nil_iff_forall_not_mem.2 fun e he => List.not_mem_nil ((mem_iff_of_filter_eq h e).2 he)
  | cons e es ih =>
    cases es' with
    | nil => exact absurd ((mem_iff_of_filter_eq h e).1 List.mem_cons_self) List.not_mem_nil
    | cons e' es' =>
      obtain ⟨hfirst, hrest⟩ := List.pairwise_cons.1 hes
      obtain ⟨hfirst', hrest'⟩ := List.pairwise_cons.1 hes'
      -- each of the two heads is in the other list, so neither stands behind the other one
      have hprecedes : e.span.Precedes e'.span := by
        rcases List.mem_cons.1 ((mem_iff_of_filter_eq h e').2 List.mem_cons_self) with rfl | he'
        · exact Span.Precedes.refl _
        · exact hfirst e' he'
      have hprecedes' : e'.span.Precedes e.span := by
        rcases List.mem_cons.1 ((mem_iff_of_filter_eq h e).1 List.mem_cons_self) with rfl | he
        · exact Span.Precedes.refl _
        · exact hfirst' e he
      have hspan : e'.span = e.span := hprecedes'.antisymm hprecedes
      have hheads := h e.span
      simp only [List.filter_cons, hspan, decide_true, if_true, List.cons.injEq] at hheads
      obtain ⟨rfl, -⟩ := hheads
      have htails : ∀ s, es.filter (·.span = s) = es'.filter (·.span = s) := by
        intro s
        have hs := h s
        by_cases heq : e.span = s
        · simpa [List.filter_cons, heq] using hs
        · simpa [List.filter_cons, heq] using hs
      rw [ih hrest hrest' htails]

/-- **There is one arrangement** of a batch. -/
theorem Arranged.unique (h : Arranged edits es) (h' : Arranged edits es') : es = es' :=
  eq_of_filter_eq h.ordered h'.ordered fun s => by rw [h.ties, h'.ties]

end Edit

/-! ## What is accepted -/

namespace Text

variable {t s : Text} {edits es : List Edit}

/-- **From a chain to any two**: edits in the order of the text go together just if each is a stretch of the text and no
two overlap. -/
theorem admits_iff_of_ordered (h : es.Pairwise fun a b => a.span.Precedes b.span) :
    t.Admits es ↔ (∀ e ∈ es, e.span.IsIn t) ∧ es.Pairwise fun a b => a.span.Apart b.span := by
  constructor
  · intro hes
    exact ⟨hes.isIn, hes.pairwise.imp .inl⟩
  · rintro ⟨hin, hapart⟩
    refine admits_of_pairwise hin ((h.and hapart).imp_of_mem ?_)
    intro a b _ hb hab
    exact hab.1.stop_le hab.2 (hin b hb).le

theorem admits_iff_of_arranged (h : Edit.Arranged edits es) :
    t.Admits es ↔ (∀ e ∈ edits, e.span.IsIn t) ∧ edits.Pairwise fun a b => a.span.Apart b.span := by
  rw [admits_iff_of_ordered h.ordered, h.perm.pairwise_iff Span.Apart.symm]
  simp only [h.perm.mem_iff]

/-- **A batch that is accepted** makes one substitution. -/
theorem replaceAll_eq_ok_iff (h : Edit.Arranged edits es) :
    t.replaceAll edits = .ok s ↔ t.Admits es ∧ s = t.rewritten 0 es := by
  have hsorted : edits.mergeSort Edit.lastFirst = es.reverse := by
    rw [h.unique (Edit.arranged_mergeSort edits), List.reverse_reverse]
  rw [← substitute?_eq_some_iff, replaceAll_eq_ok_iff_run, hsorted]
  constructor
  · rintro ⟨p, hp, rfl⟩
    exact (Splicer.replaceAll_reverse_eq_ok_iff.1 hp).text
  · intro hs
    have hmade : Splicer.Made t es ⟨s, Splicer.start t es⟩ := ⟨hs, rfl⟩
    exact ⟨_, Splicer.replaceAll_reverse_eq_ok_iff.2 hmade, rfl⟩

end Text

/-! ## What refuses a batch -/

/-- The first refusal of some spans that are replaced one after the other, if what follows the floor is replaced
already. -/
def Text.firstRefusal? (t : Text) (floor : Nat) : List Span → Option Refusal
  | [] => none
  | s :: ss => t.refusal? floor s <|> t.firstRefusal? s.start ss

/-- **A run fails with the first refusal** of its spans, whatever takes their place. -/
theorem Splicer.Made.replaceAll_eq_error_iff {t : Text} {es edits : List Edit} {s : Splicer} {r : Refusal}
    (h : Splicer.Made t es s) :
    s.replaceAll edits = .error r ↔ t.firstRefusal? s.floor (edits.map (·.span)) = some r := by
  induction edits generalizing es s with
  | nil => simp [Text.firstRefusal?]
  | cons e edits ih =>
    rw [Splicer.replaceAll_cons, List.map_cons, Text.firstRefusal?]
    rcases h.replace_cases e with ⟨r', hr, hreplace⟩ | ⟨hr, s', hreplace, hmade⟩
    · rw [hreplace, hr]
      simp [Except.bind]
    · have hfloor : s'.floor = e.span.start := hmade.floor
      have hrest := ih hmade
      rw [hfloor] at hrest
      rw [hreplace, hr]
      simpa [Except.bind] using hrest

theorem Text.replaceAll_eq_error_iff {t : Text} {edits : List Edit} {r : Refusal} : t.replaceAll edits = .error r ↔
    t.firstRefusal? t.byteLength ((edits.mergeSort Edit.lastFirst).map (·.span)) = some r := by
  rw [replaceAll_eq_error_iff_run]
  exact (Splicer.made_ofText t).replaceAll_eq_error_iff

/-! ## Batches that differ in their order -/

namespace Edit

variable {edits edits' es es' : List Edit}

theorem map_span_mergeSort_of_perm (h : edits.Perm edits') :
    (edits.mergeSort lastFirst).map (·.span) = (edits'.mergeSort lastFirst).map (·.span) := by
  have hsorted : ∀ es : List Edit, ((es.mergeSort lastFirst).map (·.span)).Pairwise fun a b => b.Precedes a := by
    intro es
    rw [List.pairwise_map]
    exact (pairwise_lastFirst es).imp lastFirst_iff.1
  have hperm : (edits.mergeSort lastFirst).Perm (edits'.mergeSort lastFirst) :=
    (List.mergeSort_perm edits _).trans (h.trans (List.mergeSort_perm edits' _).symm)
  exact List.Perm.eq_of_pairwise (fun _ _ _ _ hab hba => hba.antisymm hab) (hsorted edits) (hsorted edits')
    (hperm.map _)

/-- No two edits insert different texts at one place. -/
def InsertionsAgree (edits : List Edit) : Prop :=
  ∀ a ∈ edits, ∀ b ∈ edits, a.span.start = a.span.stop → b.span = a.span → b.replacement = a.replacement

/-- Where two edits of one span are apart they are insertions, so there is one edit of each span if these agree. -/
theorem InsertionsAgree.eq_of_span_eq {t : Text} (h : InsertionsAgree edits) (hin : ∀ e ∈ edits, e.span.IsIn t)
    (hapart : edits.Pairwise fun a b => a.span.Apart b.span) :
    ∀ a ∈ edits, ∀ b ∈ edits, a.span = b.span → a = b := by
  have hsymm : Std.Symm fun a b : Edit => a.span = b.span → a = b := ⟨fun a b hab hspan => (hab hspan.symm).symm⟩
  have hpairs : edits.Pairwise fun a b => a.span = b.span → a = b := by
    refine hapart.imp_of_mem ?_
    intro a b ha hb hab hspan
    have hempty : a.span.start = a.span.stop := hab.start_eq_stop hspan (hin a ha).le
    have hreplacement := h a ha b hb hempty hspan.symm
    obtain ⟨aspan, areplacement⟩ := a
    obtain ⟨bspan, breplacement⟩ := b
    simp only at hspan hreplacement
    rw [hspan, hreplacement]
  exact hpairs.forall_of_forall fun a _ _ => rfl

theorem InsertionsAgree.arranged_eq {t : Text} (h : InsertionsAgree edits) (hperm : edits.Perm edits')
    (hes : Arranged edits es) (hes' : Arranged edits' es') (hadmits : t.Admits es) : es = es' := by
  obtain ⟨hin, hapart⟩ := (Text.admits_iff_of_arranged hes).1 hadmits
  refine List.Perm.eq_of_pairwise ?_ hes.ordered hes'.ordered (hes.perm.trans (hperm.trans hes'.perm.symm))
  intro a b ha hb hab hba
  have ha' : a ∈ edits := hes.perm.mem_iff.1 ha
  have hb' : b ∈ edits := hperm.mem_iff.2 (hes'.perm.mem_iff.1 hb)
  exact h.eq_of_span_eq hin hapart a ha' b hb' (hab.antisymm hba)

end Edit

/-- **A batch is accepted just if its edits are apart**: all spans are stretches of the text, and of any two one ends
where the other one starts or before, so that only insertions can have the same span. Then the text is the original with
all spans replaced at once, in the one order by start and by end in which edits of one span are in the reverse of the
order given, and with what stands between them kept. -/
theorem batch_accepted_iff_apart (t : Text) (edits : List Edit) :
    ((∃ s, t.replaceAll edits = .ok s) ↔
      (∀ e ∈ edits, e.span.start ≤ e.span.stop ∧ e.span.stop ≤ t.byteLength ∧
        t.IsBoundary e.span.start ∧ t.IsBoundary e.span.stop) ∧
      edits.Pairwise fun a b => a.span.Apart b.span) ∧
    ∃ es, (∀ es', Edit.Arranged edits es' ↔ es' = es) ∧
      ∀ s, t.replaceAll edits = .ok s → t.Admits es ∧ s = t.rewritten 0 es ∧
        edits.Pairwise fun a b => a.span = b.span → a.span.start = a.span.stop := by
  obtain ⟨es, harranged⟩ : ∃ es, Edit.Arranged edits es := ⟨_, Edit.arranged_mergeSort edits⟩
  have hcondition : t.Admits es ↔ _ := Text.admits_iff_of_arranged harranged
  simp only [← Span.isIn_iff]
  rw [← hcondition]
  refine ⟨⟨?_, ?_⟩, es, fun es' => ⟨?_, ?_⟩, ?_⟩
  · rintro ⟨s, hs⟩
    exact ((Text.replaceAll_eq_ok_iff harranged).1 hs).1
  · intro hadmits
    exact ⟨_, (Text.replaceAll_eq_ok_iff harranged).2 ⟨hadmits, rfl⟩⟩
  · intro hes'
    exact hes'.unique harranged
  · rintro rfl
    exact harranged
  · intro s hs
    obtain ⟨hadmits, htext⟩ := (Text.replaceAll_eq_ok_iff harranged).1 hs
    obtain ⟨hin, hapart⟩ := hcondition.1 hadmits
    refine ⟨hadmits, htext, hapart.imp_of_mem ?_⟩
    intro a b ha _ hab hspan
    exact hab.start_eq_stop hspan (hin a ha).le

example : Text.replaceAll "é!" [⟨⟨2, 2⟩, "1"⟩, ⟨⟨2, 3⟩, "?"⟩, ⟨⟨2, 2⟩, "2"⟩] = .ok ("é21?" : Text) := by cbv

/-- **The order of a batch plays no role.** Batches of the same edits are both accepted or both refused. If they are
refused it is for the same cause, told by the same span, floor or offset. If they are accepted the text is the same,
unless there are insertions of different texts at one place. -/
theorem batch_of_perm (t : Text) {edits edits' : List Edit} (h : edits.Perm edits') :
    ((∃ s, t.replaceAll edits = .ok s) ↔ ∃ s, t.replaceAll edits' = .ok s) ∧
    (∀ r, t.replaceAll edits = .error r ↔ t.replaceAll edits' = .error r) ∧
    (Edit.InsertionsAgree edits → t.replaceAll edits = t.replaceAll edits') := by
  have herror : ∀ r, t.replaceAll edits = .error r ↔ t.replaceAll edits' = .error r := by
    intro r
    rw [Text.replaceAll_eq_error_iff, Text.replaceAll_eq_error_iff, Edit.map_span_mergeSort_of_perm h]
  refine ⟨?_, herror, fun hagree => ?_⟩
  · cases hedits : t.replaceAll edits with
    | error r => simp [(herror r).1 hedits]
    | ok s =>
      cases hedits' : t.replaceAll edits' with
      | error r => rw [(herror r).2 hedits'] at hedits; cases hedits
      | ok s' => simp
  · cases hedits : t.replaceAll edits with
    | error r => exact ((herror r).1 hedits).symm
    | ok s =>
      obtain ⟨hadmits, rfl⟩ := (Text.replaceAll_eq_ok_iff (Edit.arranged_mergeSort edits)).1 hedits
      have hsame := hagree.arranged_eq h (Edit.arranged_mergeSort edits) (Edit.arranged_mergeSort edits') hadmits
      rw [hsame] at hadmits ⊢
      exact ((Text.replaceAll_eq_ok_iff (Edit.arranged_mergeSort edits')).2 ⟨hadmits, rfl⟩).symm

/-- Insertions around a replacement, and one text inserted twice. -/
def aroundArrow : List Edit := [⟨⟨2, 5⟩, ">"⟩, ⟨⟨2, 2⟩, "-"⟩, ⟨⟨6, 6⟩, "?"⟩, ⟨⟨5, 5⟩, "="⟩, ⟨⟨2, 2⟩, "-"⟩]

/-- An inverted span, an overlap, a span beyond the end and one that ends inside a character. -/
def faultyEdits : List Edit := [⟨⟨3, 1⟩, ""⟩, ⟨⟨2, 6⟩, "x"⟩, ⟨⟨5, 9⟩, "y"⟩, ⟨⟨0, 4⟩, "z"⟩]

theorem batch_of_perm_reverse :
    aroundArrow.Perm aroundArrow.reverse ∧
    Text.replaceAll "é→!" aroundArrow = .ok ("é-->=!?" : Text) ∧
    Text.replaceAll "é→!" aroundArrow.reverse = .ok ("é-->=!?" : Text) ∧
    Text.replaceAll "é→!" faultyEdits = .error (.pastFloor ⟨5, 9⟩ 6) ∧
    Text.replaceAll "é→!" faultyEdits.reverse = .error (.pastFloor ⟨5, 9⟩ 6) := by
  have haround : Text.replaceAll "é→!" aroundArrow = .ok ("é-->=!?" : Text) := by cbv
  have hfaulty : Text.replaceAll "é→!" faultyEdits = .error (.pastFloor ⟨5, 9⟩ 6) := by cbv
  have hagree : Edit.InsertionsAgree aroundArrow := by unfold Edit.InsertionsAgree; decide
  have hperm : aroundArrow.Perm aroundArrow.reverse := (List.reverse_perm _).symm
  have hsame := (batch_of_perm "é→!" hperm).2.2 hagree
  have hrefused := ((batch_of_perm "é→!" (List.reverse_perm faultyEdits).symm).2.1 _).1 hfaulty
  exact ⟨hperm, haround, hsame.symm.trans haround, hfaulty, hrefused⟩

end SnippetSync
