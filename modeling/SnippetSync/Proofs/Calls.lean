import SnippetSync.Proofs.Splicing
import SnippetSync.Text.Utf8

/-!
# Calls on a splicer

Whoever holds a splicer can go on with it after a refusal, so its history is a list of calls of which some were accepted
and some were not. The refused ones leave no trace, and the accepted ones are one substitution in the text that the
splicer began with; that text also decides which call is refused next.

* `Splicer.call` — one call: the splicer then, and the refusal if there was one.
* `Splicer.after`, `Splicer.answers`, `Splicer.accepted` — what comes of some calls: the splicer, what was answered to
  each, and the edits that were made.
* `Splicer.Made.call_cases`, `Splicer.Made.after` — one call keeps the invariant, and so does every history of calls.
* `calls_substitute` — **a splicer substitutes in the original**, whatever calls were refused on the way.
* `calls_judged_by_original` — **the original decides** what is refused, and a refusal changes nothing.
-/

namespace SnippetSync

namespace Splicer

/-! ## Histories of calls -/

/-- One call, after which the splicer can be called again: the splicer then, and the refusal if there was one. -/
def call (s : Splicer) (e : Edit) : Splicer × Option Refusal :=
  match s.replace e with
  | .ok s' => (s', none)
  | .error r => (s, some r)

def after (s : Splicer) (calls : List Edit) : Splicer := calls.foldl (fun s e => (s.call e).1) s

/-- What is answered to some calls, one after the other. -/
def answers (s : Splicer) : List Edit → List (Option Refusal)
  | [] => []
  | e :: calls => (s.call e).2 :: (s.call e).1.answers calls

/-- The edits of those calls that were accepted, the last one first. -/
def accepted (s : Splicer) (calls : List Edit) : List Edit :=
  (((calls.zip (s.answers calls)).filter (·.2.isNone)).map (·.1)).reverse

variable {t : Text} {s : Splicer} {e : Edit} {es calls later : List Edit}

@[simp] theorem after_nil (s : Splicer) : s.after [] = s := rfl

@[simp] theorem after_cons (s : Splicer) (e : Edit) (calls : List Edit) :
    s.after (e :: calls) = (s.call e).1.after calls := rfl

theorem after_append (s : Splicer) (calls later : List Edit) :
    s.after (calls ++ later) = (s.after calls).after later := List.foldl_append ..

theorem answers_append (s : Splicer) (calls later : List Edit) :
    s.answers (calls ++ later) = s.answers calls ++ (s.after calls).answers later := by
  induction calls generalizing s with
  | nil => rfl
  | cons e calls ih =>
    rw [List.cons_append, answers, answers, ih, after_cons]
    rfl

theorem length_answers (s : Splicer) (calls : List Edit) : (s.answers calls).length = calls.length := by
  induction calls generalizing s with
  | nil => rfl
  | cons e calls ih => rw [answers, List.length_cons, ih, List.length_cons]

@[simp] theorem accepted_nil (s : Splicer) : s.accepted [] = [] := rfl

theorem accepted_cons_of_refused (h : (s.call e).2.isSome) :
    s.accepted (e :: calls) = (s.call e).1.accepted calls := by
  have hnone : (s.call e).2.isNone = false := by
    rw [Option.isNone_eq_false_iff]
    exact h
  simp [accepted, answers, hnone]

theorem accepted_cons_of_made (h : (s.call e).2 = none) :
    s.accepted (e :: calls) = (s.call e).1.accepted calls ++ [e] := by
  simp [accepted, answers, h]

theorem call_of_refused (h : (s.call e).2.isSome) : (s.call e).1 = s := by
  unfold call at h ⊢
  split
  · rename_i hok
    rw [hok] at h
    cases h
  · rfl

/-! ## What a history keeps -/

namespace Made

/-- One call is refused just if the original refuses the edit, and otherwise the edit is made. -/
theorem call_cases (h : Made t es s) (e : Edit) :
    (∃ r, t.refusal? s.floor e.span = some r ∧ s.call e = (s, some r)) ∨
      (t.refusal? s.floor e.span = none ∧
        ∃ s', s.call e = (s', none) ∧ s.replace e = .ok s' ∧ Made t (e :: es) s') := by
  unfold call
  rcases h.replace_cases e with ⟨r, hr, hreplace⟩ | ⟨hr, s', hreplace, hmade⟩
  · rw [hreplace]
    exact .inl ⟨r, hr, rfl⟩
  · rw [hreplace]
    exact .inr ⟨hr, s', rfl, rfl, hmade⟩

/-- **After any calls** the splicer has made the accepted edits, and no others. -/
theorem after (h : Made t es s) (calls : List Edit) : Made t (s.accepted calls ++ es) (s.after calls) := by
  induction calls generalizing s es with
  | nil => exact h
  | cons e calls ih =>
    rw [after_cons]
    rcases h.call_cases e with ⟨r, -, hcall⟩ | ⟨-, s', hcall, -, hmade⟩
    · have hrest := ih h
      rw [accepted_cons_of_refused (by rw [hcall]; rfl), hcall]
      exact hrest
    · have hrest := ih hmade
      rw [accepted_cons_of_made (by rw [hcall]), hcall, List.append_assoc]
      exact hrest

theorem take_bytes (h : Made t es s) : s.text.bytes.take s.floor = t.bytes.take s.floor := by
  obtain ⟨u, v, w, rfl, hw, hu⟩ := h.exists_untouched
  have hlength : s.floor = u.bytes.length := by rw [Text.length_bytes, hu]
  rw [hw, hlength, Text.bytes_append, Text.bytes_append, List.take_left, List.take_left]

theorem isBoundary_floor (h : Made t es s) : t.IsBoundary s.floor ∧ s.text.IsBoundary s.floor := by
  obtain ⟨u, v, w, rfl, hw, hu⟩ := h.exists_untouched
  exact ⟨Text.isBoundary_iff.2 ⟨u, v, rfl, hu⟩, Text.isBoundary_iff.2 ⟨u, w, hw, hu⟩⟩

end Made

theorem made_after (t : Text) (calls : List Edit) :
    Made t ((ofText t).accepted calls) ((ofText t).after calls) := by
  have h := (made_ofText t).after calls
  rwa [List.append_nil] at h

/-! ## Calls that were refused -/

theorem after_append_cons_of_refused (h : ((s.after calls).call e).2.isSome) (later : List Edit) :
    s.after (calls ++ e :: later) = s.after (calls ++ later) := by
  rw [after_append, after_append, after_cons, call_of_refused h]

theorem answers_append_cons_of_refused (h : ((s.after calls).call e).2.isSome) (later : List Edit) :
    (s.answers (calls ++ e :: later)).eraseIdx calls.length = s.answers (calls ++ later) := by
  rw [answers_append, answers_append, answers, call_of_refused h,
    List.eraseIdx_append_of_length_le (Nat.le_of_eq (length_answers s calls)), length_answers, Nat.sub_self,
    List.eraseIdx_cons_zero]

end Splicer

open Splicer (ofText start)

/-- **A splicer substitutes in the original.** Let some calls be made on a fresh splicer, of which some may be refused.
Then its text is the original with the accepted spans replaced at once, the edit accepted last standing first. Up to the
start of the last accepted span, or up to the end if there is none, its bytes are those of the original, and that place
is a character boundary of both. The accepted spans have gone from the length, and their replacements have come. -/
theorem calls_substitute (t : Text) (calls : List Edit) :
    let s := (ofText t).after calls
    let es := (ofText t).accepted calls
    t.Admits es ∧ s.text = t.rewritten 0 es ∧
    s.text.bytes.take (start t es) = t.bytes.take (start t es) ∧
    t.IsBoundary (start t es) ∧ s.text.IsBoundary (start t es) ∧
    s.text.byteLength + (es.map (·.span.length)).sum = t.byteLength + (es.map (·.replacement.byteLength)).sum := by
  intro s es
  have hmade : Splicer.Made t es s := Splicer.made_after t calls
  have hfloor : s.floor = start t es := hmade.floor
  obtain ⟨hboundary, hboundary'⟩ := hmade.isBoundary_floor
  rw [← hfloor]
  exact ⟨hmade.admits, hmade.text_eq, hmade.take_bytes, hboundary, hboundary',
    Text.byteLength_of_substitute? hmade.text⟩

example : ((ofText "é→!").answers [⟨⟨2, 5⟩, ">"⟩, ⟨⟨1, 2⟩, "x"⟩, ⟨⟨4, 6⟩, "y"⟩, ⟨⟨2, 2⟩, "-"⟩]) =
    [none, some (.insideCharacter 1), some (.pastFloor ⟨4, 6⟩ 2), none] ∧
    ((ofText "é→!").after [⟨⟨2, 5⟩, ">"⟩, ⟨⟨1, 2⟩, "x"⟩, ⟨⟨4, 6⟩, "y"⟩, ⟨⟨2, 2⟩, "-"⟩]).text = ("é->!" : Text) := by
  decide

/-- **The original decides.** Let some calls be made on a fresh splicer, and then one more. It is refused for the cause
for which the original refuses its span, if all is replaced that follows the start of the last accepted span. If it is
accepted, its span is a stretch of the text as this is by then, so that to replace it there cannot fail. If it is
refused, the splicer stays what it was, and all later calls come to what they come to without this one. -/
theorem calls_judged_by_original (t : Text) (calls : List Edit) (e : Edit) :
    let s := (ofText t).after calls
    let f := start t ((ofText t).accepted calls)
    (s.call e).2 = t.refusal? f e.span ∧
    ((s.call e).2 = none → ∃ before old after, s.text = before ++ old ++ after ∧
      before.byteLength = e.span.start ∧ Text.byteLength (before ++ old) = e.span.stop ∧
      (s.call e).1 = ⟨before ++ e.replacement ++ after, e.span.start⟩) ∧
    ((s.call e).2.isSome → (s.call e).1 = s ∧ ∀ later,
      (ofText t).after (calls ++ e :: later) = (ofText t).after (calls ++ later) ∧
      ((ofText t).answers (calls ++ e :: later)).eraseIdx calls.length = (ofText t).answers (calls ++ later)) := by
  intro s f
  have hmade : Splicer.Made t ((ofText t).accepted calls) s := Splicer.made_after t calls
  have hfloor : s.floor = f := hmade.floor
  refine ⟨?_, ?_, ?_⟩
  · rw [← hfloor]
    rcases hmade.call_cases e with ⟨r, hr, hcall⟩ | ⟨hr, s', hcall, -⟩
    · rw [hcall, hr]
    · rw [hcall, hr]
  · intro haccepted
    rcases hmade.call_cases e with ⟨r, -, hcall⟩ | ⟨-, s', hcall, hreplace, -⟩
    · rw [hcall] at haccepted
      cases haccepted
    · obtain ⟨-, -, before, old, after, htext, hstart, hstop, rfl⟩ := Splicer.replace_eq_ok_iff.1 hreplace
      exact ⟨before, old, after, htext, hstart, hstop, by rw [hcall]⟩
  · intro hrefused
    refine ⟨Splicer.call_of_refused hrefused, fun later => ⟨?_, ?_⟩⟩
    · exact Splicer.after_append_cons_of_refused hrefused later
    · exact Splicer.answers_append_cons_of_refused hrefused later

end SnippetSync
