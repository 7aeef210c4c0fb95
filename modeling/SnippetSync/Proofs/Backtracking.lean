import SnippetSync.Pattern.Search

/-!
# A search in step is a search with backtracking

A search takes all its threads through the text in step and drops a thread where another one has been. Told one thread
at a time, a thread goes on alone, tries the second of two places only if the first one leads nowhere, and starts at the
next place of the text only if all that start before lead nowhere. Both come to the same match if no thread goes round
in circles without reading.

* `Program.Leads` — what a thread comes to when it backtracks, `Program.Tries` — the first of some threads that comes to
  a match.
* `Program.Leftmost` — the match of the first place at which a thread comes to one.
* `Program.Ranked` — no thread goes round in circles without reading.
* `Program.follow_closed` — what goes over to the threads in the place of one holds of all that wait.
* `Program.follow_tries` — what is dropped at a place makes no difference.
* `Program.find?_eq_of_leftmost` — **a search finds the match that backtracking comes to**.
-/

namespace SnippetSync.Program

/-- What a thread comes to at a place when it backtracks: the match of the first way through the program that accepts,
or nothing if none does. -/
inductive Leads (p : Program) : Cursor → Thread → Option Match → Prop
  | outside {o : Cursor} {x : Thread} (instr : p[x.address]? = none) : Leads p o x none
  | accept {o : Cursor} {x : Thread} (instr : p[x.address]? = some .accept) : Leads p o x (some (x.accept o.offset))
  | read {o : Cursor} {x : Thread} {s : CharSet} {c : Char} {rest : Text} {r : Option Match}
      (instr : p[x.address]? = some (.read s)) (char : o.rest = c :: rest) (mem : s.contains c = true)
      (next : Leads p (o.step c rest) x.next r) : Leads p o x r
  | unread {o : Cursor} {x : Thread} {s : CharSet} (instr : p[x.address]? = some (.read s))
      (char : ∀ c rest, o.rest = c :: rest → s.contains c = false) : Leads p o x none
  | check {o : Cursor} {x : Thread} {a : Anchor} {r : Option Match} (instr : p[x.address]? = some (.check a))
      (holds : o.satisfies a = true) (next : Leads p o x.next r) : Leads p o x r
  | uncheck {o : Cursor} {x : Thread} {a : Anchor} (instr : p[x.address]? = some (.check a))
      (holds : o.satisfies a = false) : Leads p o x none
  | jump {o : Cursor} {x : Thread} {target : Nat} {r : Option Match} (instr : p[x.address]? = some (.jump target))
      (next : Leads p o (x.goto target) r) : Leads p o x r
  | prefer {o : Cursor} {x : Thread} {first second : Nat} {m : Match}
      (instr : p[x.address]? = some (.fork first second)) (next : Leads p o (x.goto first) (some m)) :
      Leads p o x (some m)
  | fallback {o : Cursor} {x : Thread} {first second : Nat} {r : Option Match}
      (instr : p[x.address]? = some (.fork first second)) (failed : Leads p o (x.goto first) none)
      (next : Leads p o (x.goto second) r) : Leads p o x r
  | enter {o : Cursor} {x : Thread} {f : Field} {r : Option Match} (instr : p[x.address]? = some (.enter f))
      (next : Leads p o (x.enter f o.offset).next r) : Leads p o x r
  | leave {o : Cursor} {x : Thread} {f : Field} {r : Option Match} (instr : p[x.address]? = some (.leave f))
      (next : Leads p o (x.leave f o.offset).next r) : Leads p o x r

/-- What the threads come to when they are tried one after the other, up to the first one that comes to a match. -/
inductive Tries (p : Program) (o : Cursor) : List Thread → Option Match → Prop
  | nil : Tries p o [] none
  | hit {x : Thread} {xs : List Thread} {m : Match} (head : Leads p o x (some m)) : Tries p o (x :: xs) (some m)
  | miss {x : Thread} {xs : List Thread} {r : Option Match} (head : Leads p o x none) (tail : Tries p o xs r) :
      Tries p o (x :: xs) r

/-- The match of the first place from the cursor on at which a thread that starts there comes to one. -/
inductive Leftmost (p : Program) : Cursor → Option Match → Prop
  | here {o : Cursor} {m : Match} (found : Leads p o (Thread.fresh o.offset) (some m)) : Leftmost p o (some m)
  | later {o : Cursor} {c : Char} {rest : Text} {r : Option Match} (failed : Leads p o (Thread.fresh o.offset) none)
      (char : o.rest = c :: rest) (next : Leftmost p (o.step c rest) r) : Leftmost p o r
  | nowhere {o : Cursor} (failed : Leads p o (Thread.fresh o.offset) none) (last : o.rest = []) : Leftmost p o none

/-- The addresses at which a thread at this address goes on without reading. -/
def targets (p : Program) (a : Nat) : List Nat :=
  match p[a]? with
  | some (.check _) | some (.enter _) | some (.leave _) => [a + 1]
  | some (.jump target) => [target]
  | some (.fork first second) => [first, second]
  | _ => []

/-- What goes on without reading goes down in rank. -/
def Ranked (p : Program) (rank : Nat → Nat) : Prop := ∀ a, ∀ b ∈ p.targets a, rank b < rank a

variable {p : Program} {o : Cursor} {x y : Thread} {xs ys : List Thread} {r r' s : Option Match} {rank : Nat → Nat}

/-- What a thread notes has no say in whether it comes to a match. -/
theorem Leads.exists_of_address (h : Leads p o x r) (hxy : y.address = x.address) :
    ∃ s, Leads p o y s ∧ s.isSome = r.isSome := by
  induction h generalizing y with
  | outside instr => exact ⟨none, .outside (hxy ▸ instr), rfl⟩
  | accept instr => exact ⟨_, .accept (hxy ▸ instr), rfl⟩
  | read instr char mem _ ih =>
    obtain ⟨s, hs, hsome⟩ := ih (y := y.next) (congrArg (· + 1) hxy)
    exact ⟨s, .read (hxy ▸ instr) char mem hs, hsome⟩
  | unread instr char => exact ⟨none, .unread (hxy ▸ instr) char, rfl⟩
  | check instr holds _ ih =>
    obtain ⟨s, hs, hsome⟩ := ih (y := y.next) (congrArg (· + 1) hxy)
    exact ⟨s, .check (hxy ▸ instr) holds hs, hsome⟩
  | uncheck instr holds => exact ⟨none, .uncheck (hxy ▸ instr) holds, rfl⟩
  | jump instr _ ih =>
    obtain ⟨s, hs, hsome⟩ := ih (y := y.goto _) rfl
    exact ⟨s, .jump (hxy ▸ instr) hs, hsome⟩
  | prefer instr _ ih =>
    obtain ⟨s, hs, hsome⟩ := ih (y := y.goto _) rfl
    obtain ⟨m, rfl⟩ := Option.isSome_iff_exists.1 hsome
    exact ⟨some m, .prefer (hxy ▸ instr) hs, rfl⟩
  | fallback instr _ _ ih ih' =>
    obtain ⟨s, hs, hnone⟩ := ih (y := y.goto _) rfl
    obtain rfl : s = none := by simpa using hnone
    obtain ⟨s', hs', hsome'⟩ := ih' (y := y.goto _) rfl
    exact ⟨s', .fallback (hxy ▸ instr) hs hs', hsome'⟩
  | enter instr _ ih =>
    obtain ⟨s, hs, hsome⟩ := ih (y := (y.enter _ _).next) (congrArg (· + 1) hxy)
    exact ⟨s, .enter (hxy ▸ instr) hs, hsome⟩
  | leave instr _ ih =>
    obtain ⟨s, hs, hsome⟩ := ih (y := (y.leave _ _).next) (congrArg (· + 1) hxy)
    exact ⟨s, .leave (hxy ▸ instr) hs, hsome⟩

theorem Leads.inversion (h : Leads p o x r) :
    match p[x.address]? with
    | none => r = none
    | some .accept => r = some (x.accept o.offset)
    | some (.read s) => (∃ c rest, o.rest = c :: rest ∧ s.contains c = true ∧ Leads p (o.step c rest) x.next r) ∨
      ((∀ c rest, o.rest = c :: rest → s.contains c = false) ∧ r = none)
    | some (.check a) => (o.satisfies a = true ∧ Leads p o x.next r) ∨ (o.satisfies a = false ∧ r = none)
    | some (.jump target) => Leads p o (x.goto target) r
    | some (.fork first second) => (Leads p o (x.goto first) r ∧ r.isSome) ∨
      (Leads p o (x.goto first) none ∧ Leads p o (x.goto second) r)
    | some (.enter f) => Leads p o (x.enter f o.offset).next r
    | some (.leave f) => Leads p o (x.leave f o.offset).next r := by
  cases h with
  | outside instr => rw [instr]
  | accept instr => rw [instr]
  | read instr char mem next =>
    rw [instr]
    exact .inl ⟨_, _, char, mem, next⟩
  | unread instr char =>
    rw [instr]
    exact .inr ⟨char, rfl⟩
  | check instr holds next =>
    rw [instr]
    exact .inl ⟨holds, next⟩
  | uncheck instr holds =>
    rw [instr]
    exact .inr ⟨holds, rfl⟩
  | jump instr next =>
    rw [instr]
    exact next
  | prefer instr next =>
    rw [instr]
    exact .inl ⟨next, rfl⟩
  | fallback instr failed next =>
    rw [instr]
    exact .inr ⟨failed, next⟩
  | enter instr next =>
    rw [instr]
    exact next
  | leave instr next =>
    rw [instr]
    exact next

theorem Leads.unique (h : Leads p o x r) (h' : Leads p o x s) : r = s := by
  have hinv := h'.inversion
  induction h generalizing s with
  | outside instr =>
    rw [instr] at hinv
    exact hinv.symm
  | accept instr =>
    rw [instr] at hinv
    exact hinv.symm
  | read instr char mem _ ih =>
    rw [instr] at hinv
    obtain ⟨c, rest, hchar, -, hnext⟩ | ⟨hno, -⟩ := hinv
    · rw [char] at hchar
      cases hchar
      exact ih hnext hnext.inversion
    · rw [hno _ _ char] at mem
      cases mem
  | unread instr char =>
    rw [instr] at hinv
    obtain ⟨c, rest, hchar, hmem, -⟩ | ⟨-, rfl⟩ := hinv
    · rw [char _ _ hchar] at hmem
      cases hmem
    · rfl
  | check instr holds _ ih =>
    rw [instr] at hinv
    obtain ⟨-, hnext⟩ | ⟨hno, -⟩ := hinv
    · exact ih hnext hnext.inversion
    · rw [hno] at holds
      cases holds
  | uncheck instr holds =>
    rw [instr] at hinv
    obtain ⟨hyes, -⟩ | ⟨-, rfl⟩ := hinv
    · rw [hyes] at holds
      cases holds
    · rfl
  | jump instr _ ih | enter instr _ ih | leave instr _ ih =>
    rw [instr] at hinv
    exact ih hinv hinv.inversion
  | prefer instr _ ih =>
    rw [instr] at hinv
    obtain ⟨hnext, -⟩ | ⟨hfailed, -⟩ := hinv
    · exact ih hnext hnext.inversion
    · cases ih hfailed hfailed.inversion
  | fallback instr _ _ ih ih' =>
    rw [instr] at hinv
    obtain ⟨hfirst, hsome⟩ | ⟨-, hnext⟩ := hinv
    · rw [← ih hfirst hfirst.inversion] at hsome
      cases hsome
    · exact ih' hnext hnext.inversion

theorem tries_cons_iff : p.Tries o (x :: xs) r ↔
    (p.Leads o x r ∧ r.isSome) ∨ (p.Leads o x none ∧ p.Tries o xs r) := by
  constructor
  · intro h
    cases h with
    | hit head => exact .inl ⟨head, rfl⟩
    | miss head tail => exact .inr ⟨head, tail⟩
  · rintro (⟨head, hsome⟩ | ⟨head, tail⟩)
    · obtain ⟨m, rfl⟩ := Option.isSome_iff_exists.1 hsome
      exact .hit head
    · exact .miss head tail

theorem Tries.append_none (h : p.Tries o xs none) (h' : p.Tries o ys r) : p.Tries o (xs ++ ys) r := by
  induction xs with
  | nil => exact h'
  | cons x xs ih =>
    rcases tries_cons_iff.1 h with ⟨-, hsome⟩ | ⟨head, tail⟩
    · cases hsome
    · exact .miss head (ih tail)

theorem Tries.append_some {m : Match} (h : p.Tries o xs (some m)) (ys : List Thread) :
    p.Tries o (xs ++ ys) (some m) := by
  induction xs with
  | nil => cases h
  | cons x xs ih =>
    rcases tries_cons_iff.1 h with ⟨head, -⟩ | ⟨head, tail⟩
    · exact .hit head
    · exact .miss head (ih tail)

/-- A thread at this address comes to a match. -/
def Wins (p : Program) (o : Cursor) (a : Nat) : Prop := ∃ x m, x.address = a ∧ Leads p o x (some m)

theorem Leads.wins_iff (h : Leads p o x r) : p.Wins o x.address ↔ r.isSome := by
  constructor
  · rintro ⟨y, m, hy, hm⟩
    obtain ⟨s, hs, hsome⟩ := hm.exists_of_address hy.symm
    rw [h.unique hs, hsome]
    rfl
  · intro hsome
    obtain ⟨m, rfl⟩ := Option.isSome_iff_exists.1 hsome
    exact ⟨x, m, rfl, h⟩

theorem Leads.not_wins (h : Leads p o x none) : ¬ p.Wins o x.address :=
  fun hwins => by simpa using h.wins_iff.1 hwins

theorem Wins.exists_leads (h : p.Wins o x.address) : ∃ m, Leads p o x (some m) := by
  obtain ⟨y, m, hy, hm⟩ := h
  obtain ⟨s, hs, hsome⟩ := hm.exists_of_address hy.symm
  obtain ⟨m', rfl⟩ := Option.isSome_iff_exists.1 hsome
  exact ⟨m', hs⟩

/-- One of the threads comes to a match, and it and those before it are of a lower rank than the address. -/
def Pending (p : Program) (o : Cursor) (rank : Nat → Nat) (a : Nat) : List Thread → Prop
  | [] => False
  | x :: xs => rank x.address < rank a ∧ (p.Wins o x.address ∨ Pending p o rank a xs)

theorem pending_append {a : Nat} (hys : ∀ y ∈ ys, rank y.address < rank a)
    (h : (∃ y ∈ ys, p.Wins o y.address) ∨ Pending p o rank a xs) : Pending p o rank a (ys ++ xs) := by
  induction ys with
  | nil =>
    rcases h with ⟨y, hy, -⟩ | h
    · exact absurd hy List.not_mem_nil
    · exact h
  | cons y ys ih =>
    obtain ⟨hy, hys⟩ := List.forall_mem_cons.1 hys
    refine ⟨hy, ?_⟩
    rcases h with ⟨z, hz, hwins⟩ | h
    · rcases List.mem_cons.1 hz with rfl | hz
      · exact .inl hwins
      · exact .inr (ih hys (.inl ⟨z, hz, hwins⟩))
    · exact .inr (ih hys (.inr h))

/-- Wherever a thread has been and would come to a match, this is still to come, and no thread before it can come back
there. -/
def Marks (p : Program) (o : Cursor) (rank : Nat → Nat) (seen : Array Bool) (xs : List Thread) : Prop :=
  ∀ a, seen[a]? = some true → p.Wins o a → Pending p o rank a xs

theorem Marks.replace {seen : Array Bool} {h : x.address < seen.size} (hmarks : p.Marks o rank seen (x :: xs))
    (ys : List Thread) (hys : ∀ y ∈ ys, rank y.address < rank x.address)
    (hwins : p.Wins o x.address → ∃ y ∈ ys, p.Wins o y.address) :
    p.Marks o rank (seen.set x.address true h) (ys ++ xs) := by
  intro a ha hwin
  rw [Array.getElem?_set] at ha
  split at ha
  · rename_i hxa
    subst hxa
    exact pending_append hys (.inl (hwins hwin))
  · obtain ⟨hrank, hlater⟩ := hmarks a ha hwin
    exact pending_append (fun y hy => Nat.lt_trans (hys y hy) hrank) (hlater.imp_left hwins)

theorem Marks.not_wins {seen : Array Bool} (hmarks : p.Marks o rank seen (x :: xs))
    (hseen : seen[x.address]? = some true) : ¬ p.Wins o x.address := by
  intro hwins
  -- what is pending there is of a lower rank, but the thread itself is the first of it
  obtain ⟨hrank, -⟩ := hmarks _ hseen hwins
  exact absurd hrank (Nat.lt_irrefl _)

theorem Marks.drop {seen : Array Bool} (hmarks : p.Marks o rank seen (x :: xs)) (h : ¬ p.Wins o x.address) :
    p.Marks o rank seen xs := by
  intro a ha hwin
  obtain ⟨-, hwins | hlater⟩ := hmarks a ha hwin
  · exact absurd hwins h
  · exact hlater

theorem Marks.replace_none {seen : Array Bool} {h : x.address < seen.size} (hmarks : p.Marks o rank seen (x :: xs))
    (hx : ¬ p.Wins o x.address) : p.Marks o rank (seen.set x.address true h) xs :=
  hmarks.replace [] (by simp) fun hwins => absurd hwins hx

theorem Tries.drop (h : p.Tries o (x :: xs) r) (hx : ¬ p.Wins o x.address) : p.Tries o xs r := by
  rcases tries_cons_iff.1 h with ⟨head, hsome⟩ | ⟨-, tail⟩
  · exact absurd (head.wins_iff.2 hsome) hx
  · exact tail

/-! ## Going on without reading -/

/-- The threads that take the place of a thread which goes on without reading, in the order in which they are tried. -/
def moves (p : Program) (o : Cursor) (x : Thread) : List Thread :=
  match p[x.address]? with
  | some (.check a) => if o.satisfies a then [x.next] else []
  | some (.jump target) => [x.goto target]
  | some (.fork first second) => [x.goto first, x.goto second]
  | some (.enter f) => [(x.enter f o.offset).next]
  | some (.leave f) => [(x.leave f o.offset).next]
  | _ => []

theorem address_mem_targets (h : y ∈ p.moves o x) : y.address ∈ p.targets x.address := by
  unfold moves at h
  unfold targets
  cases hinstr : p[x.address]? with
  | none =>
    rw [hinstr] at h
    cases h
  | some instr =>
    rw [hinstr] at h
    cases instr with
    | accept | read => cases h
    | check a =>
      obtain ⟨-, rfl⟩ : o.satisfies a = true ∧ y = x.next := by simpa using h
      exact List.mem_singleton_self _
    | jump | enter | leave =>
      obtain rfl := List.mem_singleton.1 h
      exact List.mem_singleton_self _
    | fork first second =>
      obtain rfl | rfl : y = x.goto first ∨ y = x.goto second := by simpa using h
      · exact List.mem_cons_self
      · exact List.mem_cons_of_mem _ (List.mem_singleton_self _)

/-- **What goes over to the threads in its place** holds of all threads that wait, and of the one that accepts. -/
theorem follow_closed {P : Thread → Prop} (hP : ∀ x, P x → ∀ y ∈ p.moves o x, P y) {threads : List Thread}
    {seen : Array Bool} (h : ∀ x ∈ threads, P x) :
    (∀ x ∈ (p.follow o threads seen).1, P x) ∧ ∀ m, (p.follow o threads seen).2 = some m →
      ∃ x, P x ∧ p[x.address]? = some .accept ∧ m = x.accept o.offset := by
  have hmoved : ∀ {x xs} ys, (∀ z ∈ x :: xs, P z) → p.moves o x = ys → ∀ z ∈ ys ++ xs, P z := by
    intro x xs ys h hys z hz
    obtain ⟨hx, hxs⟩ := List.forall_mem_cons.1 h
    rcases List.mem_append.1 hz with hz | hz
    · exact hP x hx z (hys ▸ hz)
    · exact hxs z hz
  fun_induction follow p o threads seen with
  | case1 => exact ⟨h, nofun⟩
  | case2 _ x xs _ _ ih => exact ih (List.forall_mem_cons.1 h).2
  | case3 _ x xs _ _ _ _ _ ih => exact ih (List.forall_mem_cons.1 h).2
  | case4 _ x xs _ _ _ hinstr =>
    refine ⟨fun y hy => absurd hy List.not_mem_nil, fun m hm => ?_⟩
    exact ⟨x, (List.forall_mem_cons.1 h).1, hinstr, (Option.some.inj hm).symm⟩
  | case5 _ x xs _ _ _ _ _ _ waiting found heq ih =>
    obtain ⟨hx, hxs⟩ := List.forall_mem_cons.1 h
    obtain ⟨hwaiting, hfound⟩ := ih hxs
    rw [heq] at hwaiting hfound
    exact ⟨List.forall_mem_cons.2 ⟨hx, hwaiting⟩, hfound⟩
  | case6 _ x xs _ _ _ _ _ hinstr ha ih => exact ih (hmoved [x.next] h (by simp [moves, hinstr, ha]))
  | case7 _ x xs _ _ _ _ _ _ _ ih => exact ih (List.forall_mem_cons.1 h).2
  | case8 _ x xs _ _ _ _ target hinstr ih => exact ih (hmoved [x.goto target] h (by simp [moves, hinstr]))
  | case9 _ x xs _ _ _ _ first second hinstr ih =>
    exact ih (hmoved [x.goto first, x.goto second] h (by simp [moves, hinstr]))
  | case10 _ x xs _ _ _ _ f hinstr ih =>
    exact ih (hmoved [(x.enter f o.offset).next] h (by simp [moves, hinstr]))
  | case11 _ x xs _ _ _ _ f hinstr ih =>
    exact ih (hmoved [(x.leave f o.offset).next] h (by simp [moves, hinstr]))
  | case12 _ x xs _ ih => exact ih (List.forall_mem_cons.1 h).2

theorem Leads.tries (h : p.Leads o x r) : p.Tries o [x] r := by
  cases r with
  | none => exact .miss h .nil
  | some m => exact .hit h

/-- A thread that neither accepts nor reads comes to what the threads in its place come to. -/
theorem Leads.moves (h : p.Leads o x r) (haccept : p[x.address]? ≠ some .accept)
    (hread : ∀ s, p[x.address]? ≠ some (.read s)) : p.Tries o (p.moves o x) r := by
  unfold Program.moves
  cases h with
  | outside instr =>
    rw [instr]
    exact .nil
  | accept instr => exact absurd instr haccept
  | read instr | unread instr => exact absurd instr (hread _)
  | check instr holds next =>
    simp only [instr, holds, if_true]
    exact next.tries
  | uncheck instr holds =>
    simp only [instr, holds, Bool.false_eq_true, if_false]
    exact .nil
  | jump instr next | enter instr next | leave instr next =>
    rw [instr]
    exact next.tries
  | prefer instr next =>
    rw [instr]
    exact .hit next
  | fallback instr failed next =>
    rw [instr]
    exact .miss failed next.tries

theorem Tries.exists_wins {m : Match} (h : p.Tries o xs (some m)) : ∃ x ∈ xs, p.Wins o x.address := by
  induction xs with
  | nil => cases h
  | cons x xs ih =>
    rcases tries_cons_iff.1 h with ⟨head, -⟩ | ⟨-, tail⟩
    · exact ⟨x, List.mem_cons_self, x, m, rfl, head⟩
    · obtain ⟨y, hy, hwins⟩ := ih tail
      exact ⟨y, List.mem_cons_of_mem _ hy, hwins⟩

/-- When a thread neither accepts nor reads, it is marked and others take its place: the marks stay right, and what all
threads come to stays the same. -/
theorem Marks.moves (hrank : p.Ranked rank) {seen : Array Bool} {h : x.address < seen.size}
    (hmarks : p.Marks o rank seen (x :: xs)) (hmoves : p.moves o x = ys) (haccept : p[x.address]? ≠ some .accept)
    (hread : ∀ s, p[x.address]? ≠ some (.read s)) :
    p.Marks o rank (seen.set x.address true h) (ys ++ xs) ∧
      ∀ r, p.Tries o (x :: xs) r → p.Tries o (ys ++ xs) r := by
  subst hmoves
  constructor
  · refine hmarks.replace _ (fun y hy => hrank _ _ (address_mem_targets hy)) fun hwins => ?_
    obtain ⟨m, hm⟩ := hwins.exists_leads
    exact (hm.moves haccept hread).exists_wins
  · intro r htries
    rcases tries_cons_iff.1 htries with ⟨head, hsome⟩ | ⟨head, tail⟩
    · obtain ⟨m, rfl⟩ := Option.isSome_iff_exists.1 hsome
      exact (head.moves haccept hread).append_some xs
    · exact (head.moves haccept hread).append_none tail

/-- **What is dropped makes no difference**: the first match that threads come to is the first one that the waiting
threads come to, or else that of the thread which accepts. -/
theorem follow_tries (hrank : p.Ranked rank) {threads : List Thread} {seen : Array Bool} (hsize : seen.size = p.size)
    (hmarks : p.Marks o rank seen threads) : ∀ r, p.Tries o threads r →
      ∃ s, p.Tries o (p.follow o threads seen).1 s ∧ s.or (p.follow o threads seen).2 = r := by
  -- the calls differ in what takes the place of the first thread; the marks stay right in all of them
  fun_induction follow p o threads seen with
  | case1 seen =>
    rintro _ ⟨⟩
    exact ⟨none, .nil, rfl⟩
  | case2 seen x xs hx hseen ih =>
    intro r h
    have hlost := hmarks.not_wins (by simp [hx, hseen])
    exact ih hsize (hmarks.drop hlost) r (h.drop hlost)
  | case3 seen x xs hx _ _ _ hinstr ih =>
    have hmoves : p.moves o x = [] := by simp [moves, hinstr]
    obtain ⟨hmarks, htries⟩ := hmarks.moves (h := hx) hrank hmoves (by simp [hinstr]) (by simp [hinstr])
    exact fun r h => ih ((Array.size_set hx).trans hsize) hmarks r (htries r h)
  | case4 seen x xs hx _ _ hinstr =>
    intro r h
    have haccept : p.Leads o x (some (x.accept o.offset)) := .accept hinstr
    rcases tries_cons_iff.1 h with ⟨head, -⟩ | ⟨head, -⟩
    · exact ⟨none, .nil, haccept.unique head⟩
    · cases haccept.unique head
  | case5 seen x xs hx _ _ _ s hinstr waiting found heq ih =>
    rintro r (_ | head | ⟨head, tail⟩)
    · exact ⟨_, .hit head, rfl⟩
    · obtain ⟨s, hs, hor⟩ := ih ((Array.size_set hx).trans hsize) (hmarks.replace_none head.not_wins) r tail
      rw [heq] at hs hor
      exact ⟨s, .miss head hs, hor⟩
  | case6 seen x xs hx _ _ _ a hinstr ha ih =>
    have hmoves : p.moves o x = [x.next] := by simp [moves, hinstr, ha]
    obtain ⟨hmarks, htries⟩ := hmarks.moves (h := hx) hrank hmoves (by simp [hinstr]) (by simp [hinstr])
    exact fun r h => ih ((Array.size_set hx).trans hsize) hmarks r (htries r h)
  | case7 seen x xs hx _ _ _ a hinstr ha ih =>
    have hmoves : p.moves o x = [] := by simp [moves, hinstr, ha]
    obtain ⟨hmarks, htries⟩ := hmarks.moves (h := hx) hrank hmoves (by simp [hinstr]) (by simp [hinstr])
    exact fun r h => ih ((Array.size_set hx).trans hsize) hmarks r (htries r h)
  | case8 seen x xs hx _ _ _ target hinstr ih =>
    have hmoves : p.moves o x = [x.goto target] := by simp [moves, hinstr]
    obtain ⟨hmarks, htries⟩ := hmarks.moves (h := hx) hrank hmoves (by simp [hinstr]) (by simp [hinstr])
    exact fun r h => ih ((Array.size_set hx).trans hsize) hmarks r (htries r h)
  | case9 seen x xs hx _ _ _ first second hinstr ih =>
    have hmoves : p.moves o x = [x.goto first, x.goto second] := by simp [moves, hinstr]
    obtain ⟨hmarks, htries⟩ := hmarks.moves (h := hx) hrank hmoves (by simp [hinstr]) (by simp [hinstr])
    exact fun r h => ih ((Array.size_set hx).trans hsize) hmarks r (htries r h)
  | case10 seen x xs hx _ _ _ f hinstr ih =>
    have hmoves : p.moves o x = [(x.enter f o.offset).next] := by simp [moves, hinstr]
    obtain ⟨hmarks, htries⟩ := hmarks.moves (h := hx) hrank hmoves (by simp [hinstr]) (by simp [hinstr])
    exact fun r h => ih ((Array.size_set hx).trans hsize) hmarks r (htries r h)
  | case11 seen x xs hx _ _ _ f hinstr ih =>
    have hmoves : p.moves o x = [(x.leave f o.offset).next] := by simp [moves, hinstr]
    obtain ⟨hmarks, htries⟩ := hmarks.moves (h := hx) hrank hmoves (by simp [hinstr]) (by simp [hinstr])
    exact fun r h => ih ((Array.size_set hx).trans hsize) hmarks r (htries r h)
  | case12 seen x xs hx ih =>
    intro r h
    have hlost : ¬ p.Wins o x.address := (Leads.outside (Array.getElem?_eq_none (by omega))).not_wins
    exact ih hsize (hmarks.drop hlost) r (h.drop hlost)

/-! ## Runs -/

theorem exists_read_of_follow {threads : List Thread} {seen : Array Bool} :
    ∀ x ∈ (p.follow o threads seen).1, ∃ s, p[x.address]? = some (.read s) := by
  fun_induction follow p o threads seen with
  | case1 | case4 => exact fun x hx => absurd hx List.not_mem_nil
  | case5 _ x xs _ _ _ _ s hinstr waiting found heq ih =>
    rw [heq] at ih
    exact List.forall_mem_cons.2 ⟨⟨s, hinstr⟩, ih⟩
  | case2 _ _ _ _ _ ih => exact ih
  | case3 _ _ _ _ _ _ _ _ ih => exact ih
  | case6 _ _ _ _ _ _ _ _ _ _ ih => exact ih
  | case7 _ _ _ _ _ _ _ _ _ _ ih => exact ih
  | case8 _ _ _ _ _ _ _ _ _ ih => exact ih
  | case9 _ _ _ _ _ _ _ _ _ _ ih => exact ih
  | case10 _ _ _ _ _ _ _ _ _ ih => exact ih
  | case11 _ _ _ _ _ _ _ _ _ ih => exact ih
  | case12 _ _ _ _ ih => exact ih

theorem Tries.read (hread : ∀ x ∈ xs, ∃ s, p[x.address]? = some (.read s)) {c : Char} {rest : Text}
    (hrest : o.rest = c :: rest) (h : p.Tries o xs r) : p.Tries (o.step c rest) (xs.filterMap (p.read? c)) r := by
  induction h with
  | nil => exact .nil
  | hit head =>
    obtain ⟨⟨s, hs⟩, -⟩ := List.forall_mem_cons.1 hread
    have hnext := head.inversion
    rw [hs] at hnext
    obtain ⟨c', rest', hchar, hmem, hnext⟩ | ⟨-, hnone⟩ := hnext
    · rw [hrest] at hchar
      cases hchar
      rw [List.filterMap_cons_some (by rw [read?, hs]; exact if_pos hmem)]
      exact .hit hnext
    · cases hnone
  | miss head _ ih =>
    obtain ⟨⟨s, hs⟩, hxs⟩ := List.forall_mem_cons.1 hread
    have hnext := head.inversion
    rw [hs] at hnext
    obtain ⟨c', rest', hchar, hmem, hnext⟩ | ⟨hno, -⟩ := hnext
    · rw [hrest] at hchar
      cases hchar
      rw [List.filterMap_cons_some (by rw [read?, hs]; exact if_pos hmem)]
      exact .miss hnext (ih hxs)
    · rw [List.filterMap_cons_none (by rw [read?, hs]; exact if_neg (by simp [hno _ _ hrest]))]
      exact ih hxs

theorem Tries.eq_none (hread : ∀ x ∈ xs, ∃ s, p[x.address]? = some (.read s)) (hrest : o.rest = [])
    (h : p.Tries o xs r) : r = none := by
  induction h with
  | nil => rfl
  | hit head =>
    obtain ⟨⟨s, hs⟩, -⟩ := List.forall_mem_cons.1 hread
    have hnext := head.inversion
    rw [hs] at hnext
    obtain ⟨c', rest', hchar, -⟩ | ⟨-, hnone⟩ := hnext
    · rw [hrest] at hchar
      cases hchar
    · exact hnone
  | miss _ _ ih => exact ih (List.forall_mem_cons.1 hread).2

theorem marks_replicate (n : Nat) : p.Marks o rank (Array.replicate n false) xs := by
  intro a ha
  rw [Array.getElem?_replicate] at ha
  split at ha <;> cases ha

theorem Leftmost.inversion (h : p.Leftmost o r) : (p.Leads o (Thread.fresh o.offset) r ∧ r.isSome) ∨
    (p.Leads o (Thread.fresh o.offset) none ∧ (o.rest = [] → r = none) ∧
      ∀ c rest, o.rest = c :: rest → p.Leftmost (o.step c rest) r) := by
  cases h with
  | here found => exact .inl ⟨found, rfl⟩
  | later failed char next =>
    refine .inr ⟨failed, fun hnil => ?_, fun c rest hrest => ?_⟩
    · rw [char] at hnil
      cases hnil
    · rw [char] at hrest
      cases hrest
      exact next
  | nowhere failed last =>
    refine .inr ⟨failed, fun _ => rfl, fun c rest hrest => ?_⟩
    rw [last] at hrest
    cases hrest

/-- What a search comes to at a place: the first match of its threads, or else the one that is found already, or else
the leftmost one of those that start here or later. -/
def Finds (p : Program) (o : Cursor) (threads : List Thread) (found r : Option Match) : Prop :=
  ∃ s, p.Tries o threads s ∧ (∀ m, s.or found = some m → r = some m) ∧ (s.or found = none → p.Leftmost o r)

theorem Finds.exists_candidates {threads : List Thread} {found : Option Match} (h : p.Finds o threads found r) :
    ∃ s, p.Tries o (candidates threads found o.offset) s ∧ (∀ m, s.or found = some m → r = some m) ∧
      (s.or found = none → (o.rest = [] → r = none) ∧ ∀ c rest, o.rest = c :: rest → p.Leftmost (o.step c rest) r) := by
  obtain ⟨s, hs, hfound, hleftmost⟩ := h
  cases found with
  | some m =>
    refine ⟨s, hs, hfound, fun hnone => ?_⟩
    cases (Option.or_eq_none_iff.1 hnone).2
  | none =>
    have hcandidates : candidates threads none o.offset = threads ++ [Thread.fresh o.offset] := rfl
    rw [hcandidates]
    cases s with
    | some m => exact ⟨some m, hs.append_some _, hfound, nofun⟩
    | none =>
      rcases (hleftmost rfl).inversion with ⟨hhere, hsome⟩ | ⟨hfailed, hlater⟩
      · obtain ⟨m, rfl⟩ := Option.isSome_iff_exists.1 hsome
        exact ⟨some m, hs.append_none (.hit hhere), fun m' hm' => hm', nofun⟩
      · exact ⟨none, hs.append_none (.miss hfailed .nil), nofun, fun _ => hlater⟩

theorem Finds.exists_waiting (hrank : p.Ranked rank) {threads waiting : List Thread} {found new : Option Match}
    (h : p.Finds o threads found r)
    (hfollow : p.follow o (candidates threads found o.offset) (Array.replicate p.size false) = (waiting, new)) :
    (∀ x ∈ waiting, ∃ s, p[x.address]? = some (.read s)) ∧
    ∃ s, p.Tries o waiting s ∧ (∀ m, s.or (new.or found) = some m → r = some m) ∧
      (s.or (new.or found) = none →
        (o.rest = [] → r = none) ∧ ∀ c rest, o.rest = c :: rest → p.Leftmost (o.step c rest) r) := by
  obtain ⟨s, hs, hlater⟩ := h.exists_candidates
  obtain ⟨s', hs', hor⟩ := follow_tries hrank Array.size_replicate (marks_replicate p.size) s hs
  have hread : ∀ x ∈ (p.follow o (candidates threads found o.offset) (Array.replicate p.size false)).1,
      ∃ s, p[x.address]? = some (.read s) := exists_read_of_follow
  rw [hfollow] at hs' hor hread
  refine ⟨hread, s', hs', ?_⟩
  rw [← Option.or_assoc, hor]
  exact hlater

/-- What a run comes to is what its threads come to. -/
theorem run_eq_of_finds (hrank : p.Ranked rank) {threads : List Thread} {found : Option Match} {before : Option Char}
    {offset : Nat} {rest : Text} (h : p.Finds ⟨before, offset, rest⟩ threads found r) :
    p.run threads found before offset rest = r := by
  induction rest generalizing threads found before offset with
  | nil =>
    rw [run]
    generalize hfollow : p.follow _ _ _ = here
    obtain ⟨waiting, new⟩ := here
    obtain ⟨hread, s, hs, hfound, hnone⟩ := h.exists_waiting hrank hfollow
    obtain rfl := hs.eq_none hread rfl
    show new.or found = r
    cases hnew : new.or found with
    | some m => exact (hfound m hnew).symm
    | none => exact ((hnone hnew).1 rfl).symm
  | cons c rest ih =>
    rw [run]
    generalize hfollow : p.follow _ _ _ = here
    obtain ⟨waiting, new⟩ := here
    obtain ⟨hread, s, hs, hfound, hnone⟩ := h.exists_waiting hrank hfollow
    dsimp only
    split
    · rename_i hstop
      obtain ⟨hempty, hsome⟩ := Bool.and_eq_true_iff.1 hstop
      obtain ⟨m, hm⟩ := Option.isSome_iff_exists.1 hsome
      rw [List.isEmpty_iff.1 hempty] at hs
      cases hs
      rw [hm]
      exact (hfound m hm).symm
    · exact ih ⟨s, hs.read hread rfl, hfound, fun h => (hnone h).2 c rest rfl⟩

/-- **A search finds the match that backtracking comes to**, starting at one place after the other. -/
theorem find?_eq_of_leftmost (hrank : p.Ranked rank) (h : p.Leftmost o r) : p.find? o = r :=
  run_eq_of_finds hrank ⟨none, .nil, nofun, fun _ => h⟩

end SnippetSync.Program
