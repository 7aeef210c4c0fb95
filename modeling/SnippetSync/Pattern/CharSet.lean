/-!
# Sets of characters

A set of characters is kept as the increasing list of the code points at which membership changes. So each set has one
form, and every combination of two sets is one walk over both lists.

* `CharSet` — the sets; `CharSet.contains` is membership.
* `CharSet.union`, `CharSet.inter`, `CharSet.diff`, `CharSet.symmDiff`, `CharSet.compl` — combinations; `contains_union`
  and its like say what they contain.
* `CharSet.ranges` — a set as a list of ranges.
-/

namespace SnippetSync

/-- A set of characters, told by the code points at which membership changes. -/
structure CharSet where
  changes : List Nat
  increasing : changes.Pairwise (· < ·)
  deriving DecidableEq, Repr

namespace CharSet

/-- Membership of a code point, where `inside` tells membership before the first change. -/
def holdsAt (inside : Bool) : List Nat → Nat → Bool
  | [], _ => inside
  | x :: xs, p => if p < x then inside else holdsAt (!inside) xs p

/-- Membership of a character. -/
def contains (s : CharSet) (c : Char) : Bool := holdsAt false s.changes c.toNat

theorem holdsAt_of_lt {b : Bool} {xs : List Nat} {p : Nat} (h : ∀ x ∈ xs, p < x) : holdsAt b xs p = b := by
  cases xs with
  | nil => rfl
  | cons x xs => simp [holdsAt, h x (by simp)]

/-- A change at a place from one membership to another, if they differ. -/
def change (before after : Bool) (p : Nat) (later : List Nat) : List Nat :=
  if before = after then later else p :: later

theorem mem_change {before after : Bool} {p x : Nat} {later : List Nat} (h : x ∈ change before after p later) :
    x = p ∨ x ∈ later := by
  unfold change at h
  split at h
  · exact .inr h
  · simpa using h

/-- The changes of a combination of two sets, `a` and `b` telling membership before their first changes. -/
def merge (op : Bool → Bool → Bool) (a b : Bool) : List Nat → List Nat → List Nat
  | [], [] => []
  | x :: xs, [] => change (op a b) (op (!a) b) x (merge op (!a) b xs [])
  | [], y :: ys => change (op a b) (op a (!b)) y (merge op a (!b) [] ys)
  | x :: xs, y :: ys =>
    if x < y then change (op a b) (op (!a) b) x (merge op (!a) b xs (y :: ys))
    else if y < x then change (op a b) (op a (!b)) y (merge op a (!b) (x :: xs) ys)
    else change (op a b) (op (!a) (!b)) x (merge op (!a) (!b) xs ys)
termination_by xs ys => xs.length + ys.length

theorem mem_merge {op : Bool → Bool → Bool} {a b : Bool} {xs ys : List Nat} {z : Nat} (h : z ∈ merge op a b xs ys) :
    z ∈ xs ∨ z ∈ ys := by
  fun_induction merge op a b xs ys with
  | case1 => simp at h
  | case2 a b x xs ih =>
    rcases mem_change h with rfl | h
    · simp
    · rcases ih h with h | h <;> simp [h]
  | case3 a b y ys ih =>
    rcases mem_change h with rfl | h
    · simp
    · rcases ih h with h | h <;> simp [h]
  | case4 a b x xs y ys hxy ih =>
    rcases mem_change h with rfl | h
    · simp
    · rcases ih h with h | h <;> simp [h]
  | case5 a b x xs y ys hxy hyx ih =>
    rcases mem_change h with rfl | h
    · simp
    · rcases ih h with h | h <;> simp [h]
  | case6 a b x xs y ys hxy hyx ih =>
    rcases mem_change h with rfl | h
    · simp
    · rcases ih h with h | h <;> simp [h]

theorem lt_of_mem_merge {op : Bool → Bool → Bool} {a b : Bool} {xs ys : List Nat} {p : Nat} (hx : ∀ x ∈ xs, p < x)
    (hy : ∀ y ∈ ys, p < y) : ∀ z ∈ merge op a b xs ys, p < z :=
  fun z hz => (mem_merge hz).elim (hx z) (hy z)

theorem lt_of_mem_cons {xs : List Nat} {p x : Nat} (hp : p < x) (h : ∀ z ∈ xs, x < z) : ∀ z ∈ x :: xs, p < z :=
  List.forall_mem_cons.2 ⟨hp, fun z hz => Nat.lt_trans hp (h z hz)⟩

theorem pairwise_change {before after : Bool} {p : Nat} {later : List Nat} (h : ∀ x ∈ later, p < x)
    (hl : later.Pairwise (· < ·)) : (change before after p later).Pairwise (· < ·) := by
  unfold change
  split
  · exact hl
  · exact List.pairwise_cons.2 ⟨h, hl⟩

theorem pairwise_merge {op : Bool → Bool → Bool} {a b : Bool} {xs ys : List Nat} (hx : xs.Pairwise (· < ·))
    (hy : ys.Pairwise (· < ·)) : (merge op a b xs ys).Pairwise (· < ·) := by
  fun_induction merge op a b xs ys with
  | case1 => exact .nil
  | case2 a b x xs ih =>
    obtain ⟨hx, hxs⟩ := List.pairwise_cons.1 hx
    exact pairwise_change (lt_of_mem_merge hx (by simp)) (ih hxs hy)
  | case3 a b y ys ih =>
    obtain ⟨hy, hys⟩ := List.pairwise_cons.1 hy
    exact pairwise_change (lt_of_mem_merge (by simp) hy) (ih hx hys)
  | case4 a b x xs y ys hxy ih =>
    obtain ⟨hx, hxs⟩ := List.pairwise_cons.1 hx
    exact pairwise_change (lt_of_mem_merge hx (lt_of_mem_cons hxy (List.pairwise_cons.1 hy).1)) (ih hxs hy)
  | case5 a b x xs y ys hxy hyx ih =>
    obtain ⟨hy, hys⟩ := List.pairwise_cons.1 hy
    exact pairwise_change (lt_of_mem_merge (lt_of_mem_cons hyx (List.pairwise_cons.1 hx).1) hy) (ih hx hys)
  | case6 a b x xs y ys hxy hyx ih =>
    obtain rfl : x = y := by omega
    obtain ⟨hx, hxs⟩ := List.pairwise_cons.1 hx
    obtain ⟨hy, hys⟩ := List.pairwise_cons.1 hy
    exact pairwise_change (lt_of_mem_merge hx hy) (ih hxs hys)

theorem holdsAt_change {before after : Bool} {x : Nat} {later : List Nat} (h : ∀ z ∈ later, x < z) (p : Nat) :
    holdsAt before (change before after x later) p = if p < x then before else holdsAt after later p := by
  unfold change
  split
  · next hba =>
    subst hba
    split
    · exact holdsAt_of_lt fun z hz => by have := h z hz; omega
    · rfl
  · next hba =>
    have : (!before) = after := by cases before <;> cases after <;> simp_all
    simp [holdsAt, this]

theorem holdsAt_merge {op : Bool → Bool → Bool} {a b : Bool} {xs ys : List Nat} (hx : xs.Pairwise (· < ·))
    (hy : ys.Pairwise (· < ·)) (p : Nat) :
    holdsAt (op a b) (merge op a b xs ys) p = op (holdsAt a xs p) (holdsAt b ys p) := by
  fun_induction merge op a b xs ys with
  | case1 => rfl
  | case2 a b x xs ih =>
    obtain ⟨hx, hxs⟩ := List.pairwise_cons.1 hx
    rw [holdsAt_change (lt_of_mem_merge hx (by simp)), ih hxs hy]
    simp only [holdsAt]
    split <;> rfl
  | case3 a b y ys ih =>
    obtain ⟨hy, hys⟩ := List.pairwise_cons.1 hy
    rw [holdsAt_change (lt_of_mem_merge (by simp) hy), ih hx hys]
    simp only [holdsAt]
    split <;> rfl
  | case4 a b x xs y ys hxy ih =>
    obtain ⟨hx, hxs⟩ := List.pairwise_cons.1 hx
    rw [holdsAt_change (lt_of_mem_merge hx (lt_of_mem_cons hxy (List.pairwise_cons.1 hy).1)), ih hxs hy]
    by_cases hp : p < x
    · simp [holdsAt, hp, show p < y by omega]
    · simp [holdsAt, hp]
  | case5 a b x xs y ys hxy hyx ih =>
    obtain ⟨hy, hys⟩ := List.pairwise_cons.1 hy
    rw [holdsAt_change (lt_of_mem_merge (lt_of_mem_cons hyx (List.pairwise_cons.1 hx).1) hy), ih hx hys]
    by_cases hp : p < y
    · simp [holdsAt, hp, show p < x by omega]
    · simp [holdsAt, hp]
  | case6 a b x xs y ys hxy hyx ih =>
    obtain rfl : x = y := by omega
    obtain ⟨hx, hxs⟩ := List.pairwise_cons.1 hx
    obtain ⟨hy, hys⟩ := List.pairwise_cons.1 hy
    rw [holdsAt_change (lt_of_mem_merge hx hy), ih hxs hys]
    by_cases hp : p < x <;> simp [holdsAt, hp]

/-- The set of what `op` tells of membership in two sets; it holds of nothing outside both. -/
def combine (op : Bool → Bool → Bool) (s t : CharSet) : CharSet :=
  ⟨merge op false false s.changes t.changes, pairwise_merge s.increasing t.increasing⟩

theorem contains_combine {op : Bool → Bool → Bool} (h : op false false = false) (s t : CharSet) (c : Char) :
    (combine op s t).contains c = op (s.contains c) (t.contains c) := by
  have hm : holdsAt (op false false) (combine op s t).changes c.toNat = op (s.contains c) (t.contains c) :=
    holdsAt_merge s.increasing t.increasing c.toNat
  rwa [h] at hm

def empty : CharSet := ⟨[], .nil⟩

instance : Inhabited CharSet := ⟨empty⟩

@[simp] theorem contains_empty (c : Char) : empty.contains c = false := rfl

def union : CharSet → CharSet → CharSet := combine (· || ·)

@[simp] theorem contains_union (s t : CharSet) (c : Char) : (s.union t).contains c = (s.contains c || t.contains c) :=
  contains_combine rfl s t c

def inter : CharSet → CharSet → CharSet := combine (· && ·)

@[simp] theorem contains_inter (s t : CharSet) (c : Char) : (s.inter t).contains c = (s.contains c && t.contains c) :=
  contains_combine rfl s t c

def diff : CharSet → CharSet → CharSet := combine fun a b => a && !b

@[simp] theorem contains_diff (s t : CharSet) (c : Char) : (s.diff t).contains c = (s.contains c && !t.contains c) :=
  contains_combine rfl s t c

def symmDiff : CharSet → CharSet → CharSet := combine Bool.xor

@[simp] theorem contains_symmDiff (s t : CharSet) (c : Char) :
    (s.symmDiff t).contains c = (s.contains c ^^ t.contains c) :=
  contains_combine rfl s t c

def compl : CharSet → CharSet
  | ⟨0 :: xs, h⟩ => ⟨xs, (List.pairwise_cons.1 h).2⟩
  | ⟨[], _⟩ => ⟨[0], by simp⟩
  | ⟨(n + 1) :: xs, h⟩ => ⟨0 :: (n + 1) :: xs, by
      refine List.pairwise_cons.2 ⟨fun x hx => ?_, h⟩
      rcases List.mem_cons.1 hx with rfl | hx
      · omega
      · exact Nat.lt_trans (by omega) ((List.pairwise_cons.1 h).1 x hx)⟩

theorem holdsAt_not (b : Bool) (xs : List Nat) (p : Nat) : holdsAt (!b) xs p = !holdsAt b xs p := by
  induction xs generalizing b with
  | nil => rfl
  | cons x xs ih =>
    simp only [holdsAt]
    split
    · rfl
    · exact ih (!b)

@[simp] theorem contains_compl (s : CharSet) (c : Char) : s.compl.contains c = !s.contains c := by
  match s with
  | ⟨0 :: xs, _⟩ =>
    have := holdsAt_not true xs c.toNat
    simp_all [compl, contains, holdsAt]
  | ⟨[], _⟩ => simp [compl, contains, holdsAt]
  | ⟨(n + 1) :: xs, _⟩ =>
    simp only [compl, contains]
    rw [← holdsAt_not]
    simp [holdsAt]

/-- One more than the greatest code point. -/
def bound : Nat := 0x110000

theorem pairwise_stretch {lo hi : Nat} (h : lo ≤ hi) : [lo, hi + 1].Pairwise (· < ·) :=
  List.pairwise_pair.2 (Nat.lt_succ_of_le h)

/-- The code points between two, both included. -/
def range (lo hi : Nat) : CharSet :=
  if h : lo ≤ hi then
    if hi + 1 < bound then ⟨[lo, hi + 1], pairwise_stretch h⟩ else ⟨[lo], List.pairwise_singleton _ lo⟩
  else empty

theorem contains_range (lo hi : Nat) (c : Char) : (range lo hi).contains c = (lo ≤ c.toNat && c.toNat ≤ hi) := by
  have hc : c.toNat < bound := by
    rcases c.valid with h | h
    · exact Nat.lt_trans h (by decide)
    · exact h.2
  rw [Bool.eq_iff_iff, Bool.and_eq_true, decide_eq_true_eq, decide_eq_true_eq]
  unfold range
  split
  · split <;> simp only [contains, holdsAt]
    · by_cases h1 : c.toNat < lo
      · simp only [h1, if_true, Bool.false_eq_true, false_iff]
        omega
      · by_cases h2 : c.toNat < hi + 1
        · simp only [h1, h2, if_false, if_true, Bool.not_false, true_iff]
          omega
        · simp only [h1, h2, if_false, Bool.not_false, Bool.not_true, Bool.false_eq_true, false_iff]
          omega
    · by_cases h1 : c.toNat < lo
      · simp only [h1, if_true, Bool.false_eq_true, false_iff]
        omega
      · simp only [h1, if_false, Bool.not_false, true_iff]
        omega
  · rw [contains_empty]
    simp only [Bool.false_eq_true, false_iff]
    omega

def one (c : Char) : CharSet := range c.toNat c.toNat

@[simp] theorem contains_one (a c : Char) : (one a).contains c = (c == a) := by
  rw [one, contains_range, Bool.eq_iff_iff]
  simp only [Bool.and_eq_true, decide_eq_true_eq, beq_iff_eq]
  constructor
  · intro h
    exact Char.toNat_inj.1 (by omega)
  · rintro rfl
    omega

def ofRanges (rs : List (Nat × Nat)) : CharSet := rs.foldr (fun r s => (range r.1 r.2).union s) empty

@[simp] theorem contains_ofRanges (rs : List (Nat × Nat)) (c : Char) :
    (ofRanges rs).contains c = rs.any fun r => r.1 ≤ c.toNat && c.toNat ≤ r.2 := by
  induction rs with
  | nil => rfl
  | cons r rs ih =>
    show ((range r.1 r.2).union (ofRanges rs)).contains c = _
    rw [contains_union, ih, contains_range, List.any_cons]

/-- The ranges between changes. -/
def rangesOf : List Nat → List (Nat × Nat)
  | [] => []
  | [lo] => [(lo, bound - 1)]
  | lo :: stop :: changes => (lo, stop - 1) :: rangesOf changes

/-- The ranges of a set in increasing order, no two of which touch. -/
def ranges (s : CharSet) : List (Nat × Nat) := rangesOf s.changes

def isAscii (s : CharSet) : Bool := s.ranges.all (·.2 < 0x80)

/-- The one character of a set that has only one. -/
def single? (s : CharSet) : Option Char :=
  match s.ranges with
  | [(lo, hi)] => if lo = hi then some (Char.ofNat lo) else none
  | _ => none

end CharSet

end SnippetSync
