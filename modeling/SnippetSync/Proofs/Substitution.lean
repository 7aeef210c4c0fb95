import Mathlib
import SnippetSync.Edit.Splicer

/-!
# Substitution in the offsets of the original

What a list of edits means, all spans being replaced at once and nothing being rewritten on the way.

* `Span.IsIn` — a span is a stretch of the text, and then there is something that stands there.
* `Text.substitute?` — the text with the spans of all edits replaced, read from its beginning to its end; none unless
  the spans follow each other and begin and end on character boundaries. `Text.byteLength_of_substitute?` is its length.
* `Splicer.replaceAll_reverse` — a splicer that makes these edits from the last one to the first comes to this text.
-/

namespace SnippetSync

/-! ## Stretches -/

/-- A stretch of the text: it is not inverted, and its ends are on character boundaries. -/
structure Span.IsIn (s : Span) (t : Text) : Prop where
  le : s.start ≤ s.stop
  start : t.IsBoundary s.start
  stop : t.IsBoundary s.stop

theorem Span.isIn_of_slice? {s : Span} {t m : Text} (h : t.slice? s = some m) : s.IsIn t := by
  obtain ⟨u, v, rfl, hu, hm⟩ := Text.slice?_eq_some_iff.1 h
  refine ⟨?_, ?_, ?_⟩
  · rw [← hu, ← hm, Text.byteLength_append]
    omega
  · exact Text.isBoundary_iff.2 ⟨u, m ++ v, by simp, hu⟩
  · exact Text.isBoundary_iff.2 ⟨u ++ m, v, rfl, hm⟩

theorem Span.IsIn.exists_slice? {s : Span} {t : Text} (h : s.IsIn t) : ∃ m, t.slice? s = some m := by
  obtain ⟨⟨u, x⟩, hu⟩ := Option.isSome_iff_exists.1 h.start
  obtain ⟨⟨w, v⟩, hw⟩ := Option.isSome_iff_exists.1 h.stop
  obtain ⟨m, rfl, -⟩ := Text.exists_between hu hw h.le
  obtain ⟨ht, hstop⟩ := Text.cut?_eq_some_iff.1 hw
  exact ⟨m, Text.slice?_eq_some_iff.2 ⟨u, v, ht, (Text.cut?_eq_some_iff.1 hu).2, hstop⟩⟩

/-! ## Edits at once -/

/-- A text that begins at `offset`, with the spans of the edits replaced at once. -/
def Text.substitute? (offset : Nat) (t : Text) : List Edit → Option Text
  | [] => some t
  | e :: es =>
    if offset ≤ e.span.start ∧ e.span.start ≤ e.span.stop then do
      let (kept, r) ← t.cut? (e.span.start - offset)
      let (_, r) ← r.cut? (e.span.stop - e.span.start)
      let s ← r.substitute? e.span.stop es
      return kept ++ e.replacement ++ s
    else none

theorem Text.substitute?_cons_eq_some_iff {offset : Nat} {t s : Text} {e : Edit} {es : List Edit} :
    t.substitute? offset (e :: es) = some s ↔ ∃ kept old r s', t = kept ++ old ++ r ∧
      e.span.start = offset + kept.byteLength ∧ e.span.stop = e.span.start + old.byteLength ∧
      r.substitute? e.span.stop es = some s' ∧ s = kept ++ e.replacement ++ s' := by
  simp only [substitute?]
  constructor
  · intro h
    split at h
    · rename_i hle
      simp only [Option.bind_eq_bind, Option.bind_eq_some_iff, Option.pure_def, Option.some.injEq, Prod.exists] at h
      obtain ⟨kept, r', hkept, old, r, hold, s', hs', rfl⟩ := h
      obtain ⟨rfl, hlen⟩ := cut?_eq_some_iff.1 hkept
      obtain ⟨rfl, hlen'⟩ := cut?_eq_some_iff.1 hold
      exact ⟨kept, old, r, s', by simp, by omega, by omega, hs', rfl⟩
    · cases h
  · rintro ⟨kept, old, r, s', rfl, hstart, hstop, hs', rfl⟩
    have hkept : e.span.start - offset = byteLength kept := by omega
    have hold : e.span.stop - e.span.start = byteLength old := by omega
    rw [if_pos (by omega), hkept, hold, List.append_assoc, cut?_append]
    simp [hs']

theorem Text.byteLength_of_substitute? {offset : Nat} {t s : Text} {es : List Edit}
    (h : t.substitute? offset es = some s) :
    s.byteLength + (es.map (·.span.length)).sum = t.byteLength + (es.map (·.replacement.byteLength)).sum := by
  induction es generalizing offset t s with
  | nil =>
    obtain rfl : t = s := by simpa [substitute?] using h
    rfl
  | cons e es ih =>
    obtain ⟨kept, old, r, s, rfl, -, hstop, hs, rfl⟩ := substitute?_cons_eq_some_iff.1 h
    have hrest := ih hs
    have hold : e.span.length = old.byteLength := by
      rw [Span.length]
      omega
    simp only [List.map_cons, List.sum_cons, byteLength_append, hold]
    omega

namespace Splicer

/-- Where the first of some edits starts; the end of the text if there is none. -/
def start (t : Text) : List Edit → Nat
  | [] => t.byteLength
  | e :: _ => e.span.start

theorem replaceAll_append_eq (s : Splicer) (es es' : List Edit) :
    s.replaceAll (es ++ es') = (s.replaceAll es).bind fun m => m.replaceAll es' := List.foldlM_append ..

theorem replaceAll_append {s s' s'' : Splicer} {es es' : List Edit} (h : s.replaceAll es = .ok s')
    (h' : s'.replaceAll es' = .ok s'') : s.replaceAll (es ++ es') = .ok s'' := by
  rw [replaceAll_append_eq, h]
  exact h'

/-- **From the last edit to the first**: behind any text `before`, the edits made one after the other, last one first,
come to the text in which all of them are made at once. -/
theorem replaceAll_reverse {before t s : Text} {es : List Edit}
    (h : t.substitute? before.byteLength es = some s) :
    (ofText (before ++ t)).replaceAll es.reverse = .ok ⟨before ++ s, start (before ++ t) es⟩ := by
  induction es generalizing before t s with
  | nil =>
    obtain rfl : t = s := by simpa [Text.substitute?] using h
    rfl
  | cons e es ih =>
    obtain ⟨kept, old, r, s', rfl, hstart, hstop, hs', rfl⟩ := Text.substitute?_cons_eq_some_iff.1 h
    have hbehind : e.span.stop = (before ++ (kept ++ old)).byteLength := by
      simp only [Text.byteLength_append]
      omega
    rw [hbehind] at hs'
    have hlater : (ofText (before ++ (kept ++ old ++ r))).replaceAll es.reverse =
        .ok ⟨before ++ (kept ++ old) ++ s', start (before ++ (kept ++ old) ++ r) es⟩ := by simpa using ih hs'
    rw [List.reverse_cons]
    refine replaceAll_append hlater ?_
    -- the edits behind this one have left the text up to its end as it was
    have hfloor : e.span.stop ≤ start (before ++ (kept ++ old) ++ r) es := by
      cases es with
      | nil => simp [hbehind, start]
      | cons e' es =>
        obtain ⟨kept', old', r', s'', -, hstart', -⟩ := Text.substitute?_cons_eq_some_iff.1 hs'
        rw [hbehind, start, hstart']
        omega
    have hstep : replace ⟨before ++ (kept ++ old) ++ s', start (before ++ (kept ++ old) ++ r) es⟩ e =
        .ok ⟨before ++ kept ++ e.replacement ++ s', e.span.start⟩ := by
      refine replace_eq_ok_iff.2 ⟨by omega, hfloor, before ++ kept, old, s', by simp, ?_, ?_, rfl⟩
      · rw [hstart, Text.byteLength_append]
      · rw [hbehind, List.append_assoc]
    rw [replaceAll_cons, hstep]
    simp [Except.bind, start]

end Splicer

end SnippetSync
