import SnippetSync.Edit.Splicer

/-!
# Batches of edits

The edits of a batch come in any order. They are sorted so that the last span comes first, edits of one span staying in
the order given, and then made one after the other.

* `Edit.lastFirst` — the order in which the edits of a batch are made.
* `Text.replaceAll` — the text after all edits, or the first refusal; `Text.replaceAll_eq_ok_iff_run` and
  `Text.replaceAll_eq_error_iff_run` tell it by what a splicer makes of the sorted edits.
-/

namespace SnippetSync

/-- The later start comes first, and of one start the later end. -/
def Edit.lastFirst (a b : Edit) : Bool :=
  b.span.start < a.span.start || (b.span.start == a.span.start && b.span.stop ≤ a.span.stop)

/-- The text after a batch of edits given in its offsets, or why one of them cannot be made. -/
def Text.replaceAll (t : Text) (edits : List Edit) : Except Refusal Text :=
  ((Splicer.ofText t).replaceAll (edits.mergeSort Edit.lastFirst)).map Splicer.text

theorem Text.replaceAll_eq_ok_iff_run {t u : Text} {edits : List Edit} : t.replaceAll edits = .ok u ↔
    ∃ s, (Splicer.ofText t).replaceAll (edits.mergeSort Edit.lastFirst) = .ok s ∧ s.text = u := by
  unfold replaceAll
  cases (Splicer.ofText t).replaceAll (edits.mergeSort Edit.lastFirst) <;> simp [Except.map]

theorem Text.replaceAll_eq_error_iff_run {t : Text} {edits : List Edit} {r : Refusal} : t.replaceAll edits = .error r ↔
    (Splicer.ofText t).replaceAll (edits.mergeSort Edit.lastFirst) = .error r := by
  unfold replaceAll
  cases (Splicer.ofText t).replaceAll (edits.mergeSort Edit.lastFirst) <;> simp [Except.map]

theorem Edit.lastFirst_trans {a b c : Edit} (hab : lastFirst a b) (hbc : lastFirst b c) : lastFirst a c := by
  simp only [lastFirst, Bool.or_eq_true, decide_eq_true_eq, Bool.and_eq_true, beq_iff_eq] at *
  omega

theorem Edit.lastFirst_total (a b : Edit) : lastFirst a b || lastFirst b a := by
  simp only [lastFirst, Bool.or_eq_true, decide_eq_true_eq, Bool.and_eq_true, beq_iff_eq]
  omega

theorem Edit.pairwise_lastFirst (edits : List Edit) :
    (edits.mergeSort lastFirst).Pairwise fun a b => lastFirst a b := by
  refine List.pairwise_mergeSort (fun a b c => ?_) (fun a b => ?_) edits
  · exact lastFirst_trans
  · exact lastFirst_total a b

end SnippetSync
