import SnippetSync.Edit.Basic

/-!
# The splicer

A splicer makes edits one after the other, last span first, all given in offsets of the text it began with. What stands
before the start of the last edit made is untouched, so those offsets stay valid there; that start is the *floor* which
later edits have to end at or before.

* `Splicer.ofText`, `Splicer.replace` — a fresh splicer, and one edit.
* `Splicer.replaceAll` — a list of edits, up to the first refusal.
* `Splicer.replace_eq_ok_iff` — when an edit is made, and what the text is then.
-/

namespace SnippetSync

/-- A text under edit from its end backwards. -/
structure Splicer where
  text : Text
  /-- The start of the last edit made, or the end of the text. -/
  floor : Nat
  deriving DecidableEq, Repr

namespace Splicer

/-- A splicer that has made no edit yet. -/
def ofText (t : Text) : Splicer := ⟨t, t.byteLength⟩

/-- Makes one edit, or tells why not. -/
def replace (s : Splicer) (e : Edit) : Except Refusal Splicer :=
  if e.span.stop < e.span.start then .error (.inverted e.span)
  else if s.floor < e.span.stop then .error (.pastFloor e.span s.floor)
  else match s.text.cut? e.span.start, s.text.cut? e.span.stop with
    | none, _ => .error (.insideCharacter e.span.start)
    | _, none => .error (.insideCharacter e.span.stop)
    | some (before, _), some (_, after) => .ok ⟨before ++ e.replacement ++ after, e.span.start⟩

/-- Makes the edits in the order given, up to the first one refused. -/
def replaceAll (s : Splicer) (edits : List Edit) : Except Refusal Splicer := edits.foldlM replace s

@[simp] theorem replaceAll_nil (s : Splicer) : s.replaceAll [] = .ok s := rfl

theorem replaceAll_cons (s : Splicer) (e : Edit) (es : List Edit) :
    s.replaceAll (e :: es) = (s.replace e).bind fun s' => s'.replaceAll es := rfl

theorem replace_eq_ok_iff {s s' : Splicer} {e : Edit} :
    s.replace e = .ok s' ↔ e.span.start ≤ e.span.stop ∧ e.span.stop ≤ s.floor ∧
      ∃ before mid after, s.text = before ++ mid ++ after ∧ before.byteLength = e.span.start ∧
        Text.byteLength (before ++ mid) = e.span.stop ∧ s' = ⟨before ++ e.replacement ++ after, e.span.start⟩ := by
  unfold replace
  constructor
  · intro h
    split at h; · simp at h
    split at h; · simp at h
    split at h <;> simp only [reduceCtorEq, Except.ok.injEq] at h
    rename_i hle hfloor before r bm after hstart hstop
    obtain ⟨mid, rfl, rfl⟩ := Text.exists_between hstart hstop (by omega)
    obtain ⟨ht, hs⟩ := Text.cut?_eq_some_iff.1 hstart
    exact ⟨by omega, by omega, before, mid, after, by simp [ht], hs, (Text.cut?_eq_some_iff.1 hstop).2, h.symm⟩
  · rintro ⟨hle, hfloor, before, mid, after, ht, hs, he, rfl⟩
    have hstart : s.text.cut? e.span.start = some (before, mid ++ after) :=
      Text.cut?_eq_some_iff.2 ⟨by simp [ht], hs⟩
    have hstop : s.text.cut? e.span.stop = some (before ++ mid, after) := Text.cut?_eq_some_iff.2 ⟨ht, he⟩
    rw [if_neg (by omega), if_neg (by omega)]
    simp [hstart, hstop]

end Splicer

end SnippetSync
