import SnippetSync.Text.Occurrence

/-!
# Where words occur

* `Text.splitFirst?_eq_some_iff` — the split at the first occurrence of a word is the one that leaves the least before
  it.
* `Text.splitFirst?_congr` — what follows the first occurrence has no say in it.
* `Text.after?_append_cons`, `Text.before_or_behind` — a character that a word does not have keeps the word from
  reaching over it.
* `Text.exists_shift` — two occurrences of a word, the first of them being the first in its text.
-/

namespace SnippetSync.Text

theorem after?_append_cons {w : Text} {x : Char} (hx : x ∉ w) (t r : Text) :
    after? w (t ++ x :: r) = (after? w t).map (· ++ x :: r) := by
  fun_induction after? w t with
  | case1 t => simp [after?]
  | case2 a w =>
    have ha : a ≠ x := fun h => hx (by simp [h])
    simp [after?, ha]
  | case3 w c t ih =>
    have hw : x ∉ w := fun h => hx (by simp [h])
    simp [after?, ih hw]
  | case4 a w c t hac => simp [after?, hac]

/-- **The first occurrence**: of all ways to split a text at a word, the one that leaves the least before it. -/
theorem splitFirst?_eq_some_iff {w t u v : Text} : splitFirst? w t = some (u, v) ↔
    t = u ++ w ++ v ∧ ∀ u' v', t = u' ++ w ++ v' → u.length ≤ u'.length := by
  induction t generalizing u with
  | nil =>
    simp only [splitFirst?, Option.map_eq_some_iff, Prod.mk.injEq, after?_eq_some_iff]
    constructor
    · rintro ⟨r, hr, rfl, rfl⟩
      exact ⟨hr, by simp⟩
    · rintro ⟨h, -⟩
      obtain ⟨rfl, rfl, rfl⟩ : u = [] ∧ w = [] ∧ v = [] := by simpa using h.symm
      exact ⟨[], rfl, rfl, rfl⟩
  | cons c t ih =>
    unfold splitFirst?
    split
    · rename_i r hr
      have hr : c :: t = w ++ r := after?_eq_some_iff.1 hr
      simp only [Option.some.injEq, Prod.mk.injEq]
      constructor
      · rintro ⟨rfl, rfl⟩
        exact ⟨by simpa using hr, by simp⟩
      · rintro ⟨h, hmin⟩
        have hu : u = [] := List.eq_nil_of_length_eq_zero (by simpa using hmin [] r (by simpa using hr))
        subst hu
        have hwr : w ++ r = w ++ v := by rw [← hr, h]; simp
        exact ⟨rfl, List.append_cancel_left hwr⟩
    · rename_i hnone
      -- the word does not begin here, so every occurrence lies behind the first character
      have hcons : ∀ u' v', c :: t = u' ++ w ++ v' → ∃ u'', u' = c :: u'' ∧ t = u'' ++ w ++ v' := by
        intro u' v' h
        cases u' with
        | nil => exact absurd (after?_eq_some_iff.2 (by simpa using h)) (by simp [hnone])
        | cons d u'' =>
          obtain ⟨rfl, ht⟩ : c = d ∧ t = u'' ++ w ++ v' := by simpa using h
          exact ⟨u'', rfl, ht⟩
      simp only [Option.map_eq_some_iff, Prod.mk.injEq, Prod.exists]
      constructor
      · rintro ⟨a, b, hab, rfl, rfl⟩
        obtain ⟨ht, hmin⟩ := ih.1 hab
        refine ⟨by simp [ht], fun u' v' h => ?_⟩
        obtain ⟨u'', rfl, ht'⟩ := hcons u' v' h
        simpa using hmin u'' v' ht'
      · rintro ⟨h, hmin⟩
        obtain ⟨u'', rfl, ht⟩ := hcons u v h
        refine ⟨u'', v, ih.2 ⟨ht, fun u' v' h' => ?_⟩, rfl, rfl⟩
        simpa using hmin (c :: u') v' (by simp [h'])

/-- A word that does not have the character `x` stands before it or behind it. -/
theorem before_or_behind {w u v s t : Text} {x : Char} (hx : x ∉ w) (h : u ++ w ++ v = s ++ x :: t) :
    (∃ m, s = u ++ w ++ m ∧ v = m ++ x :: t) ∨ ∃ n, u = s ++ x :: n ∧ t = n ++ w ++ v := by
  obtain ⟨m, rfl, hv⟩ | ⟨m, hm, ht⟩ := List.append_eq_append_iff.1 h
  · exact .inl ⟨m, rfl, hv⟩
  · cases m with
    | nil => exact .inl ⟨[], by simpa using hm.symm, by simpa using ht.symm⟩
    | cons d m =>
      obtain ⟨rfl, rfl⟩ : x = d ∧ t = m ++ v := by simpa using ht
      -- the character stands behind `s`, hence not in the word
      obtain ⟨n, rfl, hn⟩ | ⟨n, rfl, hn⟩ := List.append_eq_append_iff.1 hm
      · exact absurd (by rw [hn]; simp) hx
      · cases n with
        | nil => exact absurd (by rw [show w = x :: m by simpa using hn.symm]; simp) hx
        | cons e n =>
          obtain ⟨rfl, rfl⟩ : x = e ∧ m = n ++ w := by simpa using hn
          exact .inr ⟨n, rfl, rfl⟩

theorem splitFirst?_congr {w u v : Text} (h : splitFirst? w (u ++ w ++ v) = some (u, v)) (v' : Text) :
    splitFirst? w (u ++ w ++ v') = some (u, v') := by
  refine splitFirst?_eq_some_iff.2 ⟨rfl, fun a b hab => ?_⟩
  refine Nat.le_of_not_lt fun hlt => ?_
  obtain ⟨z, hz⟩ : a ++ w <+: u ++ w := by
    refine List.prefix_of_prefix_length_le ⟨b, hab.symm⟩ ⟨v', rfl⟩ ?_
    simp only [List.length_append]
    omega
  have hle : u.length ≤ a.length := (splitFirst?_eq_some_iff.1 h).2 a (z ++ v) (by rw [← hz]; simp)
  omega

/-- A text read once from the first occurrence of a word and once from another one: the second occurrence stands as
much later as the rest behind the first one is longer. -/
theorem exists_shift {w b r u r' : Text} (hb : splitFirst? w (b ++ w ++ r) = some (b, r))
    (h : b ++ w ++ r = u ++ w ++ r') : ∃ z y, u = b ++ z ∧ r = y ++ r' ∧ y.length = z.length := by
  have hle : b.length ≤ u.length := (splitFirst?_eq_some_iff.1 hb).2 u r' h
  have hbu : b <+: u ++ w ++ r' := ⟨w ++ r, by rw [← h]; simp⟩
  obtain ⟨z, rfl⟩ : b <+: u := List.prefix_of_prefix_length_le hbu ⟨w ++ r', by simp⟩ hle
  have hz : w ++ r = (z ++ w) ++ r' := by simpa using h
  obtain ⟨y, hy⟩ : w <+: z ++ w := List.prefix_of_prefix_length_le ⟨r, rfl⟩ ⟨r', hz.symm⟩ (by simp)
  have hr : w ++ r = w ++ (y ++ r') := by rw [hz, ← hy]; simp
  refine ⟨z, y, rfl, List.append_cancel_left hr, ?_⟩
  have := congrArg List.length hy
  simp at this
  omega

end SnippetSync.Text
