import Mathlib
import SnippetSync.Block.Scan
import SnippetSync.Proofs.Occurrence

/-!
# An opening is a matter of one line

An opening ends at the first line feed behind its beginning, and what follows this line feed has no say in it.

* `Opening.parse?_line` — what is read at the beginning of a text depends on its first line only.
* `Opening.exists_line` — an opening that is read is a line with its line feed, and this is its only one.
* `Opening.parse?_text_append` — an opening that is read is read again, whatever follows it.
* `Opening.disjoint_of_shift` — the same opening at two places of a text does not overlap itself.
-/

namespace SnippetSync

theorem takeWhile_append_stop {p : Char → Bool} {c : Char} (hc : p c = false) (l r : Text) :
    (l ++ c :: r).takeWhile p = l.takeWhile p := by
  rw [List.takeWhile_append, List.takeWhile_cons_of_neg (by simp [hc])]
  split
  · rename_i h
    rw [List.append_nil, (List.takeWhile_sublist p).eq_of_length h]
  · rfl

theorem dropWhile_append_stop {p : Char → Bool} {c : Char} (hc : p c = false) (l r : Text) :
    (l ++ c :: r).dropWhile p = l.dropWhile p ++ c :: r := by
  rw [List.dropWhile_append, List.dropWhile_cons_of_neg (by simp [hc])]
  split
  · rename_i h
    rw [List.isEmpty_iff.1 h, List.nil_append]
  · rfl

theorem lineEnd?_line {l : Text} (h : '\n' ∉ l) (r : Text) :
    lineEnd? (l ++ '\n' :: r) = (lineEnd? (l ++ ['\n'])).map fun p => (p.1, r) := by
  match l with
  | [] => rfl
  | [c] =>
    have hc : c ≠ '\n' := fun hc => h (by simp [hc])
    by_cases hr : c = '\r'
    · subst hr; rfl
    · simp [lineEnd?, hc, hr]
  | c :: d :: l =>
    have hc : c ≠ '\n' := fun hc => h (by simp [hc])
    have hd : d ≠ '\n' := fun hd => h (by simp [hd])
    simp [lineEnd?, hc, hd]

/-- What is read as a reference depends on the first line only. -/
theorem Reference.parse?_line {l : Text} (h : '\n' ∉ l) (r : Text) :
    parse? (l ++ '\n' :: r) = (parse? (l ++ ['\n'])).map fun p => (p.1, r) := by
  have hgap : isGap '\n' = false := by decide
  have hend : (!isLineEnd '\n') = false := by decide
  have hstart : '\n' ∉ referenceStart := by decide
  simp only [parse?, takeWhile_append_stop hgap, dropWhile_append_stop hgap, Text.after?_append_cons hstart]
  cases hx : Text.after? referenceStart (l.dropWhile isGap) with
  | none => rfl
  | some x =>
    have hline : '\n' ∉ x.dropWhile (!isLineEnd ·) := by
      have hl : l.dropWhile isGap = referenceStart ++ x := Text.after?_eq_some_iff.1 hx
      intro hm
      apply h
      apply (List.dropWhile_sublist isGap).subset
      rw [hl]
      exact List.mem_append_right _ ((List.dropWhile_sublist _).subset hm)
    simp only [Option.map_some, Option.bind_eq_bind, Option.bind_some]
    rw [takeWhile_append_stop hend, takeWhile_append_stop hend, dropWhile_append_stop hend,
      dropWhile_append_stop hend, lineEnd?_line hline r]
    by_cases hp : x.takeWhile (!isLineEnd ·) = []
    · rw [hp]; rfl
    · cases lineEnd? (x.dropWhile (!isLineEnd ·) ++ ['\n']) <;> simp [hp, guard]

namespace Opening

theorem tagged?_line {l : Text} (h : '\n' ∉ l) (r : Text) :
    tagged? (l ++ '\n' :: r) = (tagged? (l ++ ['\n'])).map fun p => (p.1, r) := by
  induction l with
  | nil =>
    have hblank : Text.isBlank '\n' = true := by decide
    simp [tagged?, hblank]
  | cons c l ih =>
    have hl : '\n' ∉ l := fun hm => h (by simp [hm])
    simp only [List.cons_append, tagged?]
    split
    · rfl
    · rw [ih hl, Reference.parse?_line hl r]
      cases tagged? (l ++ ['\n']) with
      | some p => rfl
      | none => cases Reference.parse? (l ++ ['\n']) <;> rfl

/-- **One line**: what is read as an opening at the beginning of a text depends on its first line only, and the rest is
what follows this line. -/
theorem parse?_line {l : Text} (h : '\n' ∉ l) (r : Text) :
    parse? (l ++ '\n' :: r) = (parse? (l ++ ['\n'])).map fun p => (p.1, r) := by
  have hfence : '\n' ∉ fence := by decide
  simp only [parse?, Text.after?_append_cons hfence]
  cases hx : Text.after? fence l with
  | none => rfl
  | some x =>
    have hline : '\n' ∉ x := by
      intro hm
      apply h
      rw [Text.after?_eq_some_iff.1 hx]
      exact List.mem_append_right _ hm
    exact tagged?_line hline r

theorem rest_of_parse?_line {l r s : Text} {o : Opening} (hl : '\n' ∉ l) (h : parse? (l ++ '\n' :: r) = some (o, s)) :
    s = r := by
  rw [parse?_line hl, Option.map_eq_some_iff] at h
  obtain ⟨p, -, hp⟩ := h
  exact (congrArg Prod.snd hp).symm

theorem newline_mem_text (o : Opening) : '\n' ∈ o.text := by
  have : '\n' ∈ lineEnd o.reference.carriage := by cases o.reference.carriage <;> decide
  simp [text, Reference.text, this]

theorem exists_line {t r : Text} {o : Opening} (h : parse? t = some (o, r)) :
    ∃ l, '\n' ∉ l ∧ o.text = l ++ ['\n'] := by
  have ht : t = o.text ++ r := eq_of_parse? h
  obtain ⟨l, s, hls, hl⟩ := List.eq_append_cons_of_mem (newline_mem_text o)
  have hrest : t = l ++ '\n' :: (s ++ r) := by rw [ht, hls]; simp
  rw [hrest] at h
  obtain rfl : s = [] := by simpa using rest_of_parse?_line hl h
  exact ⟨l, hl, hls⟩

/-- **Read again**: an opening that is read once is read wherever it stands, whatever follows it. -/
theorem parse?_text_append {t r : Text} {o : Opening} (h : parse? t = some (o, r)) (s : Text) :
    parse? (o.text ++ s) = some (o, s) := by
  obtain ⟨l, hl, hol⟩ := exists_line h
  have ht : t = l ++ '\n' :: r := by rw [eq_of_parse? h, hol]; simp
  rw [ht, parse?_line hl, Option.map_eq_some_iff] at h
  obtain ⟨p, hp, heq⟩ := h
  rw [hol, List.append_assoc, List.cons_append, List.nil_append, parse?_line hl, hp]
  exact congrArg (fun q => some (q.1, s)) heq

/-- Whether an opening is read does not depend on what follows a line feed. -/
theorem parse?_isSome_append {t : Text} (ht : '\n' ∈ t) (r s : Text) :
    (parse? (t ++ r)).isSome = (parse? (t ++ s)).isSome := by
  obtain ⟨l, m, rfl, hl⟩ := List.eq_append_cons_of_mem ht
  simp only [List.append_assoc, List.cons_append]
  rw [parse?_line hl (m ++ r), parse?_line hl (m ++ s)]
  simp

/-- An opening that also stands `y` further on in a text begins there behind its first stand. -/
theorem disjoint_of_shift {t r : Text} {o : Opening} (h : parse? t = some (o, r)) {lead y a b : Text} (hy : y ≠ [])
    (hab : lead ++ o.text ++ b = y ++ lead ++ o.text ++ a) : ∃ m, b = m ++ o.text ++ a := by
  obtain ⟨l, hl, hol⟩ := exists_line h
  have hab' : lead ++ o.text ++ b = (y ++ lead) ++ (o.text ++ a) := by rw [hab]; simp
  obtain ⟨m, hm, hb⟩ | ⟨m, hm, ha⟩ := List.append_eq_append_iff.1 hab'
  · exact ⟨m, by rw [hb]; simp⟩
  · cases m with
    | nil => exact ⟨[], by simpa using ha.symm⟩
    | cons c m =>
      exfalso
      have hlen : (c :: m).length < o.text.length := by
        have := congrArg List.length hm
        have := List.length_pos_iff.2 hy
        simp only [List.length_append] at *
        omega
      -- the overlap ends with the line feed of the first stand and lies inside the line of the second
      have hlast : '\n' ∈ c :: m := by
        have hsuffix : c :: m <:+ o.text :=
          List.suffix_of_suffix_length_le ⟨y ++ lead, hm.symm⟩ ⟨lead, rfl⟩ (Nat.le_of_lt hlen)
        rw [hol] at hsuffix
        obtain ⟨k, hk⟩ := hsuffix
        have : (c :: m).getLast (by simp) = '\n' := by
          have := congrArg List.getLast? hk
          simpa [List.getLast?_eq_some_getLast] using this
        exact this ▸ List.getLast_mem _
      have hpre : c :: m <+: l := by
        have : c :: m <+: o.text :=
          List.prefix_of_prefix_length_le ⟨b, ha.symm⟩ ⟨a, rfl⟩ (Nat.le_of_lt hlen)
        rw [hol] at this hlen
        exact List.prefix_of_prefix_length_le this ⟨['\n'], rfl⟩ (by simp at hlen ⊢; omega)
      exact hl (hpre.subset hlast)

end Opening

end SnippetSync
