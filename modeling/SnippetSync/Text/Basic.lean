/-!
# Texts and byte offsets

A text is a list of characters. Positions in it are counted in bytes of UTF-8, so not every number is a
position: only those on a character boundary cut a text in two.

* `Text.concat`, `Text.ofNat` — how messages and lines are put together.
* `Text.byteLength` — the bytes a text takes.
* `Span` — a stretch `start..stop` of byte offsets.
* `Text.cut?` — the two parts of a text at an offset; `Text.cut?_eq_some_iff` says that they are the only two
  texts which make up the whole and meet at that offset.
* `Text.slice?` — the text between two offsets, characterised by `Text.slice?_eq_some_iff`.
-/

namespace SnippetSync

/-- A text is the sequence of its characters. -/
abbrev Text := List Char

instance : Coe String Text := ⟨String.toList⟩

/-- A stretch of a text, from the byte offset `start` up to but not including `stop`. -/
structure Span where
  start : Nat
  stop : Nat
  deriving DecidableEq, Repr, Inhabited

namespace Span

/-- The number of bytes in a span; zero for an inverted one. -/
def length (s : Span) : Nat := s.stop - s.start

end Span

namespace Text

def concat (ts : List Text) : Text := ts.flatten

def ofNat (n : Nat) : Text := Nat.toDigits 10 n

/-- The number of bytes a text takes in UTF-8. -/
def byteLength : Text → Nat
  | [] => 0
  | c :: t => c.utf8Size + byteLength t

@[simp] theorem byteLength_nil : byteLength [] = 0 := rfl

@[simp] theorem byteLength_cons (c : Char) (t : Text) :
    byteLength (c :: t) = c.utf8Size + byteLength t := rfl

@[simp] theorem byteLength_append (t u : Text) : byteLength (t ++ u) = byteLength t + byteLength u := by
  induction t with
  | nil => simp
  | cons c t ih => simp [ih, Nat.add_assoc]

theorem byteLength_eq_zero {t : Text} : byteLength t = 0 ↔ t = [] := by
  cases t with
  | nil => simp
  | cons c t => have := c.utf8Size_pos; simp; omega

/-- The two parts of a text at a byte offset, if the offset is inside it or at its end and on a character boundary. -/
def cut? : Text → Nat → Option (Text × Text)
  | t, 0 => some ([], t)
  | [], _ + 1 => none
  | c :: t, o + 1 =>
    if c.utf8Size ≤ o + 1 then (cut? t (o + 1 - c.utf8Size)).map fun p => (c :: p.1, p.2) else none

theorem cut?_eq_some_iff {t : Text} {o : Nat} {u v : Text} :
    cut? t o = some (u, v) ↔ t = u ++ v ∧ byteLength u = o := by
  fun_induction cut? t o generalizing u v with
  | case1 t => simp only [Option.some.injEq, Prod.mk.injEq, byteLength_eq_zero]; grind
  | case2 => simp only [reduceCtorEq, false_iff, not_and]; rintro h; simp_all [List.nil_eq]
  | case3 c t o h ih =>
    simp only [Option.map_eq_some_iff, Prod.mk.injEq, Prod.exists]
    constructor
    · rintro ⟨a, b, hab, rfl, rfl⟩
      obtain ⟨rfl, hl⟩ := ih.1 hab
      exact ⟨rfl, by simp only [byteLength_cons]; omega⟩
    · rintro ⟨ht, hl⟩
      cases u with
      | nil => simp at hl
      | cons d u =>
        obtain ⟨rfl, rfl⟩ : c = d ∧ t = u ++ v := by simpa using ht
        exact ⟨u, v, ih.2 ⟨rfl, by simp only [byteLength_cons] at hl; omega⟩, rfl, rfl⟩
  | case4 c t o h =>
    simp only [reduceCtorEq, false_iff, not_and]
    intro ht hl
    cases u with
    | nil => simp at hl
    | cons d u =>
      obtain ⟨rfl, -⟩ : c = d ∧ t = u ++ v := by simpa using ht
      simp only [byteLength_cons] at hl
      omega

@[simp] theorem cut?_append (u v : Text) : cut? (u ++ v) (byteLength u) = some (u, v) :=
  cut?_eq_some_iff.2 ⟨rfl, rfl⟩

@[simp] theorem cut?_zero (t : Text) : cut? t 0 = some ([], t) := cut?_eq_some_iff.2 ⟨rfl, rfl⟩

@[simp] theorem cut?_byteLength (t : Text) : cut? t (byteLength t) = some (t, []) :=
  cut?_eq_some_iff.2 ⟨by simp, rfl⟩

theorem exists_between {t u x w v : Text} {a b : Nat} (hu : cut? t a = some (u, x)) (hw : cut? t b = some (w, v))
    (hab : a ≤ b) : ∃ m, w = u ++ m ∧ x = m ++ v := by
  obtain ⟨rfl, rfl⟩ := cut?_eq_some_iff.1 hu
  obtain ⟨h, rfl⟩ := cut?_eq_some_iff.1 hw
  obtain ⟨m, hm⟩ | ⟨m, rfl, hv⟩ := List.append_eq_append_iff.1 h
  · exact ⟨m, hm⟩
  · rw [byteLength_append] at hab
    obtain rfl : m = [] := byteLength_eq_zero.1 (by omega)
    exact ⟨[], by simp, by simpa using hv.symm⟩

/-- An offset is on a character boundary of a text when it cuts the text in two. -/
def IsBoundary (t : Text) (o : Nat) : Prop := (cut? t o).isSome

instance (t : Text) (o : Nat) : Decidable (IsBoundary t o) := inferInstanceAs (Decidable (_ = true))

theorem isBoundary_iff {t : Text} {o : Nat} : IsBoundary t o ↔ ∃ u v, t = u ++ v ∧ byteLength u = o := by
  simp only [IsBoundary, Option.isSome_iff_exists, Prod.exists, cut?_eq_some_iff]

theorem IsBoundary.le {t : Text} {o : Nat} (h : IsBoundary t o) : o ≤ byteLength t := by
  obtain ⟨u, v, rfl, rfl⟩ := isBoundary_iff.1 h
  simp

/-- The text in a span, if the span is not inverted and both its ends are on character boundaries. -/
def slice? (t : Text) (s : Span) : Option Text :=
  if s.start ≤ s.stop then
    (cut? t s.start).bind fun p => (cut? p.2 (s.stop - s.start)).map Prod.fst
  else none

theorem slice?_eq_some_iff {t m : Text} {s : Span} :
    slice? t s = some m ↔ ∃ u v, t = u ++ m ++ v ∧ byteLength u = s.start ∧ byteLength (u ++ m) = s.stop := by
  unfold slice?
  constructor
  · intro h
    split at h
    · simp only [Option.bind_eq_some_iff, Option.map_eq_some_iff, Prod.exists, exists_and_right,
        exists_eq_right] at h
      obtain ⟨u, r, hu, v, hm⟩ := h
      obtain ⟨rfl, hlen⟩ := cut?_eq_some_iff.1 hm
      obtain ⟨rfl, hlen'⟩ := cut?_eq_some_iff.1 hu
      exact ⟨u, v, by simp, hlen', by simp; omega⟩
    · exact absurd h (by simp)
  · rintro ⟨u, v, rfl, hu, hm⟩
    simp only [byteLength_append] at hm
    rw [if_pos (by omega), List.append_assoc, ← hu, cut?_append]
    have : s.stop - byteLength u = byteLength m := by omega
    simp [this]

end Text

def Span.text (s : Span) : Text := Text.concat [Text.ofNat s.start, "..", Text.ofNat s.stop]

end SnippetSync
