import SnippetSync.Text.Basic

/-!
# Occurrences of one text in another

* `Text.after?` — what follows a word at the beginning of a text.
* `Text.splitFirst?` — the parts of a text on both sides of the first occurrence of a word. That they surround it is
  `Text.eq_of_splitFirst?`; a text without any occurrence is `Text.splitFirst?_eq_none_iff`.
-/

namespace SnippetSync.Text

/-- What follows the word `w` in a text that begins with it. -/
def after? : Text → Text → Option Text
  | [], t => some t
  | _ :: _, [] => none
  | a :: w, c :: t => if a = c then after? w t else none

theorem after?_eq_some_iff {w t r : Text} : after? w t = some r ↔ t = w ++ r := by
  fun_induction after? w t with
  | case1 t => simp [eq_comm]
  | case2 => simp
  | case3 w c t ih => simp [ih]
  | case4 a w c t h => simp; intro hc; exact absurd hc.symm h

@[simp] theorem after?_append (w r : Text) : after? w (w ++ r) = some r := after?_eq_some_iff.2 rfl

/-- The parts of a text before and after the first occurrence of the word `w`. -/
def splitFirst? (w : Text) : Text → Option (Text × Text)
  | [] => (after? w []).map fun r => ([], r)
  | c :: t =>
    match after? w (c :: t) with
    | some r => some ([], r)
    | none => (splitFirst? w t).map fun p => (c :: p.1, p.2)

theorem eq_of_splitFirst? {w t u v : Text} (h : splitFirst? w t = some (u, v)) : t = u ++ w ++ v := by
  induction t generalizing u with
  | nil =>
    simp only [splitFirst?, Option.map_eq_some_iff, Prod.mk.injEq] at h
    obtain ⟨r, hr, rfl, rfl⟩ := h
    simpa using after?_eq_some_iff.1 hr
  | cons c t ih =>
    unfold splitFirst? at h
    split at h
    · rename_i r hr
      obtain ⟨rfl, rfl⟩ : [] = u ∧ r = v := by simpa using h
      simpa using after?_eq_some_iff.1 hr
    · simp only [Option.map_eq_some_iff, Prod.mk.injEq, Prod.exists] at h
      obtain ⟨a, b, hab, rfl, rfl⟩ := h
      simp [ih hab]

theorem splitFirst?_eq_none_iff {w t : Text} : splitFirst? w t = none ↔ ¬ w <:+: t := by
  induction t with
  | nil => cases w <;> simp [splitFirst?, after?]
  | cons c t ih =>
    unfold splitFirst?
    split
    · rename_i r hr
      simp only [reduceCtorEq, false_iff, Decidable.not_not]
      exact ⟨[], r, by simpa using (after?_eq_some_iff.1 hr).symm⟩
    · rename_i hnone
      rw [Option.map_eq_none_iff, ih, List.infix_cons_iff, not_or]
      refine ⟨fun h => ⟨?_, h⟩, And.right⟩
      rintro ⟨r, hr⟩
      simp [← hr] at hnone

end SnippetSync.Text
