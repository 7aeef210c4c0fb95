import SnippetSync.Proofs.Appending

/-!
# Line endings

A document reads the same whether its lines end in a line feed or in a carriage return and a line feed. The scanner
counts a carriage return at the end of an opening to its line end and never to its path, and there is nothing else in a
block that a carriage return could end or begin: a tag ends before it as it ends before the line feed, and a fence does
not reach over it. So each part of a document can be converted on its own, and what is converted is found just where
what it comes from was found.

* `Text.crlf` — the text with a carriage return put before every line feed; `Text.crlfOffset` is where an offset goes.
* `Text.crlfInduction` — induction along a text the way it is converted.
* `Text.after?_crlf`, `Text.splitFirst?_crlf` — words without line ends stand in both texts alike.
* `Opening.parse?_crlf` — **an opening is read in both texts alike**, with its carriage return.
* `Passage.WellFormed.crlf`, `Outline.WellFormed.crlf` — a converted outline is well-formed.
* `Outline.blocksFrom_crlf` — where the blocks of a converted outline stand.
* `line_endings_immaterial` — **line endings do not change what is found.**
-/

namespace SnippetSync

/-! ## Converted texts -/

namespace Text

/-- The text with a carriage return before every line feed. -/
def crlf : Text → Text
  | [] => []
  | c :: t => if c = '\n' then '\r' :: '\n' :: crlf t else c :: crlf t

/-- The number of line feeds before an offset. -/
def feedsBefore : Text → Nat → Nat
  | [], _ => 0
  | c :: t, o => if o = 0 then 0 else (if c = '\n' then 1 else 0) + feedsBefore t (o - c.utf8Size)

/-- Where an offset of the text is in the converted one: further on by the number of line feeds before it. -/
def crlfOffset (t : Text) (o : Nat) : Nat := o + t.feedsBefore o

variable {w t u s : Text} {c : Char} {p : Char → Bool}

@[simp] theorem crlf_nil : crlf [] = [] := rfl

@[simp] theorem crlf_newline (t : Text) : crlf ('\n' :: t) = '\r' :: '\n' :: crlf t := by simp [crlf]

theorem crlf_cons (hc : c ≠ '\n') (t : Text) : crlf (c :: t) = c :: crlf t := by simp [crlf, hc]

/-- Induction along a text the way it is converted: by whether a line feed is next. -/
@[elab_as_elim]
theorem crlfInduction {motive : Text → Prop} (nil : motive []) (newline : ∀ t, motive t → motive ('\n' :: t))
    (cons : ∀ c t, c ≠ '\n' → motive t → motive (c :: t)) : ∀ t, motive t
  | [] => nil
  | c :: t => by
    have ih : motive t := crlfInduction nil newline cons t
    by_cases hc : c = '\n'
    · subst hc
      exact newline t ih
    · exact cons c t hc ih

@[simp] theorem crlf_append (t u : Text) : crlf (t ++ u) = crlf t ++ crlf u := by
  induction t using crlfInduction with
  | nil => rfl
  | newline t ih => simp [ih]
  | cons c t hc ih => simp [crlf_cons hc, ih]

theorem crlf_eq_self (h : '\n' ∉ t) : crlf t = t := by
  induction t with
  | nil => rfl
  | cons c t ih =>
    have hc : c ≠ '\n' := (List.ne_of_not_mem_cons h).symm
    rw [crlf_cons hc, ih (List.not_mem_of_not_mem_cons h)]

theorem feedsBefore_append (u v : Text) : (u ++ v).feedsBefore u.byteLength = u.count '\n' := by
  induction u with
  | nil => cases v <;> simp [feedsBefore]
  | cons c u ih =>
    have hpos := c.utf8Size_pos
    have hne : ¬ c.utf8Size + byteLength u = 0 := by omega
    have hrest : c.utf8Size + byteLength u - c.utf8Size = byteLength u := by omega
    rw [List.cons_append, feedsBefore, byteLength_cons, if_neg hne, hrest, ih, List.count_cons]
    simp [Nat.add_comm]

theorem byteLength_crlf (t : Text) : (crlf t).byteLength = t.byteLength + t.count '\n' := by
  induction t using crlfInduction with
  | nil => rfl
  | newline t ih =>
    have hr : '\r'.utf8Size = 1 := rfl
    simp only [crlf_newline, byteLength_cons, ih, List.count_cons_self, hr]
    omega
  | cons c t hc ih =>
    rw [crlf_cons hc, byteLength_cons, byteLength_cons, ih, List.count_cons_of_ne hc]
    omega

/-- The offset behind the beginning of a text goes behind the converted beginning. -/
theorem crlfOffset_of_prefix (h : u <+: t) : t.crlfOffset u.byteLength = (crlf u).byteLength := by
  obtain ⟨v, rfl⟩ := h
  rw [crlfOffset, feedsBefore_append, byteLength_crlf]

/-- A converted text ends in converted texts, one of them without its carriage return perhaps. -/
theorem exists_of_suffix_crlf (h : s <:+ crlf t) : ∃ u, u <:+ t ∧ (s = crlf u ∨ s = '\n' :: crlf u) := by
  induction t using crlfInduction with
  | nil =>
    obtain rfl := List.suffix_nil.1 h
    exact ⟨[], List.suffix_refl _, .inl rfl⟩
  | newline t ih =>
    rw [crlf_newline, List.suffix_cons_iff, List.suffix_cons_iff] at h
    rcases h with rfl | rfl | h
    · exact ⟨_, List.suffix_refl _, .inl (crlf_newline t).symm⟩
    · exact ⟨t, List.suffix_cons _ t, .inr rfl⟩
    · obtain ⟨u, hu, heq⟩ := ih h
      exact ⟨u, hu.trans (List.suffix_cons _ t), heq⟩
  | cons c t hc ih =>
    rw [crlf_cons hc, List.suffix_cons_iff] at h
    rcases h with rfl | h
    · exact ⟨_, List.suffix_refl _, .inl (crlf_cons hc t).symm⟩
    · obtain ⟨u, hu, heq⟩ := ih h
      exact ⟨u, hu.trans (List.suffix_cons c t), heq⟩

/-! ### Words and runs of characters -/

/-- A word without line ends begins the converted text just if it begins the text. -/
theorem after?_crlf (hr : '\r' ∉ w) (hn : '\n' ∉ w) (t : Text) : after? w (crlf t) = (after? w t).map crlf := by
  fun_induction after? w t with
  | case1 t => simp [after?]
  | case2 a w => rfl
  | case3 w c t ih =>
    have hc : c ≠ '\n' := (List.ne_of_not_mem_cons hn).symm
    rw [crlf_cons hc, after?, if_pos rfl]
    exact ih (List.not_mem_of_not_mem_cons hr) (List.not_mem_of_not_mem_cons hn)
  | case4 a w c t hac =>
    by_cases hc : c = '\n'
    · subst hc
      have har : a ≠ '\r' := fun h => hr (by simp [h])
      simp [after?, har]
    · simp [crlf_cons hc, after?, hac]

theorem splitFirst?_cons_of_notMem (hw : w ≠ []) (hc : c ∉ w) (t : Text) :
    splitFirst? w (c :: t) = (splitFirst? w t).map fun p => (c :: p.1, p.2) := by
  have hnone : after? w (c :: t) = none := by
    cases w with
    | nil => exact absurd rfl hw
    | cons a w => simp [after?, (List.ne_of_not_mem_cons hc).symm]
  rw [splitFirst?, hnone]

theorem splitFirst?_crlf (hr : '\r' ∉ w) (hn : '\n' ∉ w) (hw : w ≠ []) (t : Text) :
    splitFirst? w (crlf t) = (splitFirst? w t).map fun p => (crlf p.1, crlf p.2) := by
  induction t using crlfInduction with
  | nil =>
    cases w with
    | nil => exact absurd rfl hw
    | cons a w => rfl
  | newline t ih =>
    rw [crlf_newline, splitFirst?_cons_of_notMem hw hr, splitFirst?_cons_of_notMem hw hn, ih,
      splitFirst?_cons_of_notMem hw hn]
    cases splitFirst? w t <;> simp
  | cons c t hc ih =>
    have hafter := after?_crlf hr hn (c :: t)
    rw [crlf_cons hc] at hafter ⊢
    rw [splitFirst?, splitFirst?, hafter, ih]
    cases after? w (c :: t) with
    | some r => rfl
    | none => cases splitFirst? w t <;> simp [crlf_cons hc]

theorem splitFirst?_fence_crlf (t : Text) :
    splitFirst? fence (crlf t) = (splitFirst? fence t).map fun p => (crlf p.1, crlf p.2) :=
  splitFirst?_crlf (by decide) (by decide) (by decide) t

theorem takeWhile_crlf (hr : p '\r' = false) (hn : p '\n' = false) (t : Text) :
    (crlf t).takeWhile p = t.takeWhile p := by
  induction t using crlfInduction with
  | nil => rfl
  | newline t _ => simp [hr, hn]
  | cons c t hc ih => rw [crlf_cons hc, List.takeWhile_cons, List.takeWhile_cons, ih]

theorem dropWhile_crlf (hr : p '\r' = false) (hn : p '\n' = false) (t : Text) :
    (crlf t).dropWhile p = crlf (t.dropWhile p) := by
  induction t using crlfInduction with
  | nil => rfl
  | newline t _ => simp [hr, hn]
  | cons c t hc ih =>
    rw [crlf_cons hc, List.dropWhile_cons, List.dropWhile_cons, ih]
    split
    · rfl
    · rw [crlf_cons hc]

end Text

/-! ## Openings -/

theorem lineEnd?_crlf {t : Text} (h : '\r' ∉ t) :
    lineEnd? t.crlf = (lineEnd? t).map fun p => (true, Text.crlf p.2) := by
  cases t with
  | nil => rfl
  | cons c t =>
    by_cases hc : c = '\n'
    · subst hc
      simp [lineEnd?]
    · have hr : c ≠ '\r' := fun hr => h (by simp [hr])
      simp [Text.crlf_cons hc, lineEnd?, hc, hr]

def Reference.crlf (a : Reference) : Reference := { a with carriage := true }

theorem Reference.parse?_crlf {t : Text} (h : '\r' ∉ t) :
    parse? t.crlf = (parse? t).map fun p => (p.1.crlf, Text.crlf p.2) := by
  have hgap : isGap '\r' = false ∧ isGap '\n' = false := by decide
  have hend : (!isLineEnd '\r') = false ∧ (!isLineEnd '\n') = false := by decide
  have hstart : '\r' ∉ referenceStart ∧ '\n' ∉ referenceStart := by decide
  simp only [parse?, Text.takeWhile_crlf hgap.1 hgap.2, Text.dropWhile_crlf hgap.1 hgap.2,
    Text.after?_crlf hstart.1 hstart.2]
  cases hx : Text.after? referenceStart (t.dropWhile isGap) with
  | none => rfl
  | some x =>
    have hrest : '\r' ∉ x.dropWhile (!isLineEnd ·) := by
      intro hm
      apply h
      apply (List.dropWhile_sublist isGap).subset
      rw [Text.after?_eq_some_iff.1 hx]
      exact List.mem_append_right _ ((List.dropWhile_sublist _).subset hm)
    simp only [Option.map_some, Option.bind_eq_bind, Option.bind_some]
    rw [Text.takeWhile_crlf hend.1 hend.2, Text.dropWhile_crlf hend.1 hend.2, lineEnd?_crlf hrest]
    by_cases hp : x.takeWhile (!isLineEnd ·) = []
    · rw [hp]; rfl
    · cases lineEnd? (x.dropWhile (!isLineEnd ·)) <;> simp [hp, guard, crlf]

namespace Opening

def crlf (o : Opening) : Opening := { o with reference := o.reference.crlf }

theorem tagged?_crlf {t : Text} (h : '\r' ∉ t) :
    tagged? t.crlf = (tagged? t).map fun p => (p.1.crlf, Text.crlf p.2) := by
  induction t using Text.crlfInduction with
  | nil => rfl
  | newline t _ =>
    have hblank : Text.isBlank '\r' = true ∧ Text.isBlank '\n' = true := by decide
    simp [tagged?, hblank]
  | cons c t hc ih =>
    have ht : '\r' ∉ t := fun hm => h (List.mem_cons_of_mem c hm)
    rw [Text.crlf_cons hc, tagged?, tagged?, ih ht, Reference.parse?_crlf ht]
    split
    · rfl
    · cases tagged? t with
      | some p => rfl
      | none => cases Reference.parse? t <;> rfl

/-- **An opening is read in both texts alike**, in the converted one with its carriage return. -/
theorem parse?_crlf {t : Text} (h : '\r' ∉ t) :
    parse? t.crlf = (parse? t).map fun p => (p.1.crlf, Text.crlf p.2) := by
  have hfence : '\r' ∉ fence ∧ '\n' ∉ fence := by decide
  rw [parse?, parse?, Text.after?_crlf hfence.1 hfence.2]
  cases hx : Text.after? fence t with
  | none => rfl
  | some x =>
    have hline : '\r' ∉ x := by
      intro hm
      apply h
      rw [Text.after?_eq_some_iff.1 hx]
      exact List.mem_append_right _ hm
    exact tagged?_crlf hline

theorem text_crlf {t r : Text} {o : Opening} (ht : '\r' ∉ t) (h : parse? t = some (o, r)) :
    o.crlf.text = Text.crlf o.text := by
  have hread : parse? t.crlf = some (o.crlf, Text.crlf r) := by rw [parse?_crlf ht, h]; rfl
  have hwritten := eq_of_parse? hread
  rw [eq_of_parse? h, Text.crlf_append] at hwritten
  exact (List.append_cancel_right hwritten).symm

def head (o : Opening) : Text := fence ++ o.language ++ o.reference.gap ++ referenceStart

theorem newline_notMem {t r : Text} {o : Opening} (h : parse? t = some (o, r)) :
    '\n' ∉ o.head ++ o.reference.source := by
  obtain ⟨l, hl, hol⟩ := exists_line h
  have hend : lineEnd o.reference.carriage ≠ [] := by cases o.reference.carriage <;> decide
  have htext : o.text = (o.head ++ o.reference.source) ++
      ((if o.reference.closed then ['}'] else []) ++ lineEnd o.reference.carriage) := by
    simp [text, Reference.text, head]
  have hprefix : o.head ++ o.reference.source <+: l ++ ['\n'] := ⟨_, htext.symm.trans hol⟩
  rcases List.prefix_concat_iff.1 hprefix with hall | hline
  · rw [hall, ← hol] at htext
    have hnil := List.self_eq_append_right.1 htext
    exact absurd (List.append_eq_nil_iff.1 hnil).2 hend
  · exact fun hm => hl (hline.subset hm)

end Opening

theorem IsBody.crlf {b : Text} (h : IsBody b) : IsBody b.crlf := by
  have hsplit : Text.splitFirst? fence (Text.crlf (b ++ fence)) = some (b.crlf, []) := by
    have hfirst := h []
    rw [List.append_nil] at hfirst
    rw [Text.splitFirst?_fence_crlf, hfirst]
    rfl
  exact isBody_of_splitFirst? hsplit

/-! ## Outlines -/

namespace Passage

variable {π : Passage}

def crlf (π : Passage) : Passage := ⟨π.lead.crlf, π.opening.crlf, π.body.crlf⟩

theorem WellFormed.text_opening_crlf (hπ : π.WellFormed) (h : '\r' ∉ π.text) :
    π.opening.crlf.text = Text.crlf π.opening.text := by
  refine Opening.text_crlf (fun hm => h ?_) (hπ.opening_read [])
  rw [List.append_nil] at hm
  simp [text, hm]

theorem WellFormed.text_crlf (hπ : π.WellFormed) (h : '\r' ∉ π.text) : π.crlf.text = Text.crlf π.text := by
  have hfence : Text.crlf fence = fence := Text.crlf_eq_self (by decide)
  simp only [text, crlf, hπ.text_opening_crlf h, Text.crlf_append, hfence]

/-- Before the opening of a converted passage no other one is read. -/
theorem WellFormed.lead_clear_crlf (hπ : π.WellFormed) (h : '\r' ∉ π.text) {s : Text} (hne : s ≠ [])
    (hs : s <:+ Text.crlf π.lead) (r : Text) : Opening.parse? (s ++ π.opening.crlf.text ++ r) = none := by
  rcases Text.exists_of_suffix_crlf hs with ⟨u, hu, rfl | rfl⟩
  · have hu' : u ≠ [] := by
      rintro rfl
      exact hne rfl
    have hclear : '\r' ∉ u ++ π.opening.text := by
      rw [List.mem_append]
      rintro (hm | hm)
      · exact h (by simp [text, hu.subset hm])
      · exact h (by simp [text, hm])
    -- what follows the line of the opening has no say in whether one is read here
    have hnone : Opening.parse? (u ++ π.opening.text) = none := by simpa using hπ.lead_clear u hu' hu []
    have hconverted : Opening.parse? (Text.crlf u ++ π.opening.crlf.text ++ []) = none := by
      rw [List.append_nil, hπ.text_opening_crlf h, ← Text.crlf_append, Opening.parse?_crlf hclear, hnone]
      rfl
    have hnewline : '\n' ∈ Text.crlf u ++ π.opening.crlf.text :=
      List.mem_append_right _ (Opening.newline_mem_text _)
    rw [← Option.not_isSome_iff_eq_none, Opening.parse?_isSome_append hnewline r [], hconverted]
    decide
  · rfl

theorem WellFormed.crlf (hπ : π.WellFormed) (h : '\r' ∉ π.text) : π.crlf.WellFormed where
  opening_read r := by
    have hopening : '\r' ∉ π.opening.text := fun hm => h (by simp [text, hm])
    have hopen := hπ.opening_read []
    rw [List.append_nil] at hopen
    have hread : Opening.parse? (Text.crlf π.opening.text) = some (π.opening.crlf, []) := by
      rw [Opening.parse?_crlf hopening, hopen]
      rfl
    exact Opening.parse?_text_append hread r
  lead_clear _ hne hs r := hπ.lead_clear_crlf h hne hs r
  body_clear := hπ.body_clear.crlf

end Passage

/-- The block of the converted text: its parts are converted, and its offsets moved. -/
def Block.crlf (t : Text) (b : Block) : Block :=
  { b.move t.crlfOffset with opening := b.opening.crlf, body := b.body.crlf }

namespace Passage

variable {π : Passage}

/-- The block of a passage, its offsets told by what stands before them. -/
theorem block_eq (π : Passage) (before : Text) : π.block before.byteLength =
    { span := ⟨(before ++ π.lead).byteLength, (before ++ π.text).byteLength⟩
      opening := π.opening.text
      language := π.opening.language
      source := π.source
      sourceSpan := ⟨(before ++ (π.lead ++ π.opening.head)).byteLength,
        (before ++ (π.lead ++ π.opening.head ++ π.source)).byteLength⟩
      body := π.body } := by
  simp [block, Opening.block, source, text, Opening.head, Nat.add_assoc]

theorem path_prefix_text (π : Passage) : π.lead ++ π.opening.head ++ π.source <+: π.text := by
  refine ⟨(if π.opening.reference.closed then ['}'] else []) ++ lineEnd π.opening.reference.carriage ++ π.body ++ fence,
    ?_⟩
  simp [text, Opening.text, Reference.text, Opening.head, source]

/-- **The block of a converted passage** is the converted block. -/
theorem WellFormed.block_crlf (hπ : π.WellFormed) (h : '\r' ∉ π.text) (before r : Text) :
    π.crlf.block before.crlf.byteLength = (π.block before.byteLength).crlf (before ++ (π.text ++ r)) := by
  have hpath : '\n' ∉ π.opening.head ++ π.source := Opening.newline_notMem (hπ.opening_read [])
  have hsource : Text.crlf π.source = π.source := Text.crlf_eq_self fun hm => hpath (by simp [hm])
  have hhead : Text.crlf π.opening.head = π.opening.head := Text.crlf_eq_self fun hm => hpath (by simp [hm])
  -- each of the four offsets stands behind a beginning of the passage
  have hoffset : ∀ u, u <+: π.text →
      (before ++ (π.text ++ r)).crlfOffset (before ++ u).byteLength = (before.crlf ++ Text.crlf u).byteLength := by
    rintro u ⟨v, huv⟩
    rw [Text.crlfOffset_of_prefix ⟨v ++ r, by rw [← huv]; simp⟩, Text.crlf_append]
  have hpathStart : π.lead ++ π.opening.head <+: π.text := (List.prefix_append _ _).trans π.path_prefix_text
  have hstart : π.lead <+: π.text := (List.prefix_append _ _).trans hpathStart
  rw [block_eq, block_eq, hπ.text_crlf h]
  simp only [Block.crlf, Block.move, Span.move, hoffset _ hstart, hoffset _ (List.prefix_refl _), hoffset _ hpathStart,
    hoffset _ π.path_prefix_text, Text.crlf_append, hhead, hsource]
  simp only [← hπ.text_opening_crlf h]
  rfl

end Passage

namespace Outline

variable {ω : Outline}

def crlf (ω : Outline) : Outline := ⟨ω.passages.map Passage.crlf, ω.tail.crlf⟩

theorem WellFormed.text_crlf (hω : ω.WellFormed) (h : '\r' ∉ ω.text) : ω.crlf.text = Text.crlf ω.text := by
  obtain ⟨πs, tail⟩ := ω
  induction πs with
  | nil => rfl
  | cons π πs ih =>
    rw [text_cons, List.mem_append, not_or] at h
    have hrest : text ⟨πs.map Passage.crlf, Text.crlf tail⟩ = Text.crlf (text ⟨πs, tail⟩) := ih hω.rest h.2
    show text ⟨π.crlf :: πs.map Passage.crlf, Text.crlf tail⟩ = _
    rw [text_cons, text_cons, Text.crlf_append, hω.head.text_crlf h.1, hrest]

/-- **A converted outline is well-formed.** -/
theorem WellFormed.crlf (hω : ω.WellFormed) (h : '\r' ∉ ω.text) : ω.crlf.WellFormed := by
  have htail : '\r' ∉ ω.tail := fun hm => h (List.mem_append_right _ hm)
  refine ⟨fun ρ hρ => ?_, fun s hs o r ho => ?_⟩
  · obtain ⟨π, hπ, rfl⟩ := List.mem_map.1 hρ
    refine (hω.passages π hπ).crlf fun hm => h ?_
    exact List.mem_append_left _ (List.mem_flatMap.2 ⟨π, hπ, hm⟩)
  · rcases Text.exists_of_suffix_crlf hs with ⟨u, hu, rfl | rfl⟩
    · rw [Opening.parse?_crlf fun hm => htail (hu.subset hm)] at ho
      obtain ⟨⟨o', r'⟩, hread, heq⟩ := Option.map_eq_some_iff.1 ho
      obtain ⟨-, rfl⟩ : o'.crlf = o ∧ Text.crlf r' = r := by simpa using heq
      have hnone : Text.splitFirst? fence r' = none :=
        Text.splitFirst?_eq_none_iff.2 (hω.tail_clear u hu o' r' hread)
      rw [← Text.splitFirst?_eq_none_iff, Text.splitFirst?_fence_crlf, hnone]
      rfl
    · cases ho

theorem blocksFrom_crlf {πs : List Passage} (hω : WellFormed ⟨πs, ω.tail⟩) (h : '\r' ∉ text ⟨πs, ω.tail⟩)
    (before : Text) : blocksFrom before.crlf.byteLength (πs.map Passage.crlf) =
      (blocksFrom before.byteLength πs).map (·.crlf (before ++ text ⟨πs, ω.tail⟩)) := by
  induction πs generalizing before with
  | nil => rfl
  | cons π πs ih =>
    rw [text_cons, List.mem_append, not_or] at h
    have hrest := ih hω.rest h.2 (before ++ π.text)
    have hnext : before.crlf.byteLength + π.crlf.text.byteLength = (Text.crlf (before ++ π.text)).byteLength := by
      rw [hω.head.text_crlf h.1, Text.crlf_append, Text.byteLength_append]
    rw [List.map_cons, blocksFrom, blocksFrom, List.map_cons, hω.head.block_crlf h.1, hnext, hrest, text_cons,
      Text.byteLength_append, List.append_assoc]

end Outline

/-- **Line endings do not change what is found.** In a text without carriage returns let every line feed be replaced by
a carriage return and a line feed. Then the blocks found are those of the text, one for one: each has the same language
and the same source, its opening and its body are converted, and every offset is further on by the number of line feeds
before it. -/
theorem line_endings_immaterial {t : Text} (h : '\r' ∉ t) :
    Scanner.standard.blocks t.crlf = (Scanner.standard.blocks t).map fun b =>
      { span := ⟨b.span.start + t.feedsBefore b.span.start, b.span.stop + t.feedsBefore b.span.stop⟩
        opening := b.opening.crlf
        language := b.language
        source := b.source
        sourceSpan := ⟨b.sourceSpan.start + t.feedsBefore b.sourceSpan.start,
          b.sourceSpan.stop + t.feedsBefore b.sourceSpan.stop⟩
        body := b.body.crlf } := by
  obtain ⟨ω, hω, rfl⟩ := Outline.exists_of_text t
  show Text.blocks _ = (Text.blocks _).map (·.crlf ω.text)
  rw [← hω.text_crlf h, (hω.crlf h).blocks_text, hω.blocks_text]
  exact Outline.blocksFrom_crlf hω h []

/-- Two blocks, the second one without a line in it, and an opening that no fence follows. -/
def mixedText : Text := "é\n```a {source=x}\n1\n2\n```\n```b {source=y}\n```c {source=z}\n"

theorem line_endings_immaterial_of_mixed :
    '\r' ∉ mixedText ∧ Scanner.standard.blocks mixedText.crlf =
      [⟨⟨4, 30⟩, "```a {source=x}\r\n", "a", "x", ⟨17, 18⟩, "1\r\n2\r\n"⟩,
        ⟨⟨32, 52⟩, "```b {source=y}\r\n", "b", "y", ⟨45, 46⟩, []⟩] := by
  have h : '\r' ∉ mixedText := by decide
  refine ⟨h, ?_⟩
  rw [line_endings_immaterial h]
  decide +kernel

end SnippetSync
