import SnippetSync.Disk.Path
import SnippetSync.Proofs.OpeningLine

/-!
# Outlines

The outline of a document is the document in its parts: passages, each of them what stands before a block, the opening
and the body of the block, and then the tail behind the last block.

* `IsBody` — a text in which, with a fence put behind it, this fence is the first one.
* `Passage`, `Outline` — the parts; `Outline.text` writes them and `Outline.blocks` are the blocks they make up.
* `Passage.WellFormed`, `Outline.WellFormed` — scanning finds just these parts: no opening begins in a lead, and none
  that a fence follows in the tail.
* `Outline.exists_of_text` — every text has a well-formed outline.
* `Outline.WellFormed.blocks_text` — the blocks of a text are those of its well-formed outline.
* `Outline.fill` — the outline with the contents of the sources as bodies.
-/

namespace SnippetSync

/-! ## Bodies -/

/-- With a fence put behind the text, this fence is the first one, whatever follows. -/
def IsBody (b : Text) : Prop := ∀ r, Text.splitFirst? fence (b ++ fence ++ r) = some (b, r)

theorem isBody_of_splitFirst? {t b r : Text} (h : Text.splitFirst? fence t = some (b, r)) : IsBody b := by
  have ht : t = b ++ fence ++ r := Text.eq_of_splitFirst? h
  rw [ht] at h
  exact Text.splitFirst?_congr h

theorem IsBody.length_le {b r u v : Text} (hb : IsBody b) (h : b ++ fence ++ r = u ++ fence ++ v) :
    b.length ≤ u.length :=
  (Text.splitFirst?_eq_some_iff.1 (hb r)).2 u v h

theorem IsBody.no_fence {b : Text} (hb : IsBody b) : ¬ fence <:+: b := by
  rintro ⟨u, v, rfl⟩
  have hle := hb.length_le (r := []) (u := u) (v := v ++ fence) (by simp)
  have hfence : fence.length = 3 := rfl
  rw [List.length_append, List.length_append] at hle
  omega

theorem isBody_append_newline {c : Text} : IsBody (c ++ ['\n']) ↔ ¬ fence <:+: c := by
  constructor
  · exact fun h hc => h.no_fence (hc.trans (List.prefix_append c ['\n']).isInfix)
  · intro hc r
    refine Text.splitFirst?_eq_some_iff.2 ⟨rfl, fun u v h => ?_⟩
    have hfence : '\n' ∉ fence := by decide
    have h' : u ++ fence ++ v = c ++ '\n' :: (fence ++ r) := by rw [← h]; simp
    obtain ⟨m, rfl, -⟩ | ⟨n, rfl, -⟩ := Text.before_or_behind hfence h'
    · exact absurd ⟨u, m, rfl⟩ hc
    · simp

/-! ## Blocks at the beginning of a text -/

theorem Block.at?_eq_some_iff {offset : Nat} {t s : Text} {b : Block} : at? offset t = some (b, s) ↔
    ∃ o r body, Opening.parse? t = some (o, r) ∧ Text.splitFirst? fence r = some (body, s) ∧
      b = o.block body offset := by
  simp only [at?, Option.bind_eq_bind, Option.bind_eq_some_iff, Option.pure_def, Option.some.injEq, Prod.exists,
    Prod.mk.injEq]
  constructor
  · rintro ⟨o, r, ho, body, s', hbody, rfl, rfl⟩
    exact ⟨o, r, body, ho, hbody, rfl⟩
  · rintro ⟨o, r, body, ho, hbody, rfl⟩
    exact ⟨o, r, ho, body, s, hbody, rfl, rfl⟩

theorem Block.at?_eq_none_iff {offset : Nat} {t : Text} :
    at? offset t = none ↔ ∀ o r, Opening.parse? t = some (o, r) → ¬ fence <:+: r := by
  rw [Option.eq_none_iff_forall_ne_some]
  constructor
  · intro h o r ho hr
    cases hs : Text.splitFirst? fence r with
    | none => exact Text.splitFirst?_eq_none_iff.1 hs hr
    | some p => exact h _ (at?_eq_some_iff.2 ⟨o, r, p.1, ho, hs, rfl⟩)
  · rintro h ⟨b, s⟩ hb
    obtain ⟨o, r, body, ho, hs, -⟩ := at?_eq_some_iff.1 hb
    have : Text.splitFirst? fence r = none := Text.splitFirst?_eq_none_iff.2 (h o r ho)
    rw [this] at hs
    cases hs

theorem Text.blocksFrom_of_none {offset : Nat} {c : Char} {t : Text} (h : Block.at? offset (c :: t) = none) :
    blocksFrom offset (c :: t) = blocksFrom (offset + c.utf8Size) t := by
  rw [blocksFrom]
  split <;> simp_all

theorem Text.blocksFrom_of_some {offset : Nat} {t r : Text} {b : Block} (h : Block.at? offset t = some (b, r)) :
    blocksFrom offset t = b :: blocksFrom b.span.stop r := by
  cases t with
  | nil => simp [Block.at?, Opening.parse?, Text.after?, fence] at h
  | cons c t =>
    rw [blocksFrom]
    split <;> simp_all

/-- Where no block begins the scan goes on. -/
theorem Text.blocksFrom_append {s t : Text}
    (h : ∀ s', s' ≠ [] → s' <:+ s → ∀ offset, Block.at? offset (s' ++ t) = none) (offset : Nat) :
    blocksFrom offset (s ++ t) = blocksFrom (offset + byteLength s) t := by
  induction s generalizing offset with
  | nil => simp
  | cons c s ih =>
    have hc : Block.at? offset (c :: (s ++ t)) = none := h (c :: s) (by simp) (List.suffix_refl _) offset
    have hs : ∀ s', s' ≠ [] → s' <:+ s → ∀ offset, Block.at? offset (s' ++ t) = none := fun s' hne hs' =>
      h s' hne (hs'.trans (List.suffix_cons c s))
    rw [List.cons_append, blocksFrom_of_none hc, ih hs, byteLength_cons, Nat.add_assoc]

/-! ## Passages -/

/-- A block of a document with what stands before it. -/
structure Passage where
  /-- What stands before the block, from the end of the block before. -/
  lead : Text
  opening : Opening
  body : Text

namespace Passage

def source (π : Passage) : Path := π.opening.reference.source

def text (π : Passage) : Text := π.lead ++ π.opening.text ++ π.body ++ fence

/-- The block of a passage that begins at `offset`. -/
def block (π : Passage) (offset : Nat) : Block := π.opening.block π.body (offset + π.lead.byteLength)

/-- The passage with the contents of its source as body. -/
def fill (contents : Path → Text) (π : Passage) : Passage := { π with body := contents π.source ++ ['\n'] }

/-- Scanning finds the block of the passage, and nothing before it. -/
structure WellFormed (π : Passage) : Prop where
  opening_read : ∀ r, Opening.parse? (π.opening.text ++ r) = some (π.opening, r)
  lead_clear : ∀ s, s ≠ [] → s <:+ π.lead → ∀ r, Opening.parse? (s ++ π.opening.text ++ r) = none
  body_clear : IsBody π.body

@[simp] theorem opening_block (π : Passage) (offset : Nat) : (π.block offset).opening = π.opening.text := rfl

@[simp] theorem language_block (π : Passage) (offset : Nat) : (π.block offset).language = π.opening.language := rfl

@[simp] theorem source_block (π : Passage) (offset : Nat) : (π.block offset).source = π.source := rfl

@[simp] theorem body_block (π : Passage) (offset : Nat) : (π.block offset).body = π.body := rfl

@[simp] theorem start_block (π : Passage) (offset : Nat) :
    (π.block offset).span.start = offset + π.lead.byteLength := rfl

@[simp] theorem stop_block (π : Passage) (offset : Nat) :
    (π.block offset).span.stop = offset + π.text.byteLength := by
  simp [block, Opening.block, text, Nat.add_assoc]

@[simp] theorem length_span_block (π : Passage) (offset : Nat) :
    (π.block offset).span.length = (π.opening.text ++ π.body ++ fence).byteLength := by
  simp only [Span.length, stop_block, start_block, text, Text.byteLength_append]
  omega

@[simp] theorem lead_fill (contents : Path → Text) (π : Passage) : (π.fill contents).lead = π.lead := rfl

@[simp] theorem opening_fill (contents : Path → Text) (π : Passage) : (π.fill contents).opening = π.opening := rfl

@[simp] theorem body_fill (contents : Path → Text) (π : Passage) :
    (π.fill contents).body = contents π.source ++ ['\n'] := rfl

@[simp] theorem source_fill (contents : Path → Text) (π : Passage) : (π.fill contents).source = π.source := rfl

theorem text_fill (contents : Path → Text) (π : Passage) :
    (π.fill contents).text = π.lead ++ π.opening.text ++ (contents π.source ++ ['\n']) ++ fence := rfl

/-- Filling a passage leaves a passage that is found just if the contents have no fence. -/
theorem WellFormed.fill {π : Passage} (hπ : π.WellFormed) {contents : Path → Text}
    (hc : ¬ fence <:+: contents π.source) : (π.fill contents).WellFormed :=
  ⟨hπ.opening_read, hπ.lead_clear, isBody_append_newline.2 hc⟩

theorem wellFormed_of_at? {offset : Nat} {t s : Text} {b : Block} (h : Block.at? offset t = some (b, s)) :
    ∃ π : Passage, π.WellFormed ∧ π.lead = [] ∧ t = π.text ++ s := by
  obtain ⟨o, r, body, ho, hbody, -⟩ := Block.at?_eq_some_iff.1 h
  refine ⟨⟨[], o, body⟩, ⟨Opening.parse?_text_append ho, ?_, isBody_of_splitFirst? hbody⟩, rfl, ?_⟩
  · intro s' hne hs'
    exact absurd (List.suffix_nil.1 hs') hne
  · rw [Opening.eq_of_parse? ho, Text.eq_of_splitFirst? hbody]
    simp [text]

/-- One more character before a passage is part of its lead when no block begins there. -/
theorem WellFormed.cons {π : Passage} (hπ : π.WellFormed) {c : Char} {r : Text} {offset : Nat}
    (h : Block.at? offset (c :: (π.text ++ r)) = none) : ({ π with lead := c :: π.lead } : Passage).WellFormed := by
  refine ⟨hπ.opening_read, ?_, hπ.body_clear⟩
  intro s hne hs r'
  obtain rfl | hs := List.suffix_cons_iff.1 hs
  · -- an opening here would end with the opening of the passage at the latest, and the passage has a fence behind it
    rw [← Option.not_isSome_iff_eq_none]
    intro hsome
    have hnl : '\n' ∈ c :: π.lead ++ π.opening.text := List.mem_append_right _ (Opening.newline_mem_text _)
    have hat : c :: (π.text ++ r) = c :: π.lead ++ π.opening.text ++ (π.body ++ fence ++ r) := by simp [text]
    rw [Opening.parse?_isSome_append hnl r' (π.body ++ fence ++ r), ← hat, Option.isSome_iff_exists] at hsome
    obtain ⟨⟨o, x⟩, hox⟩ := hsome
    -- the line ends within the lead and the opening
    obtain ⟨l, m, hlm, hl⟩ := List.eq_append_cons_of_mem hnl
    have hx : x = m ++ (π.body ++ fence ++ r) := by
      apply Opening.rest_of_parse?_line hl
      rw [← hox, hat, hlm]
      simp
    exact Block.at?_eq_none_iff.1 h o x hox ⟨m ++ π.body, r, by rw [hx]; simp⟩
  · exact hπ.lead_clear s hne hs r'

end Passage

/-! ## Outlines -/

/-- A document in its parts. -/
structure Outline where
  passages : List Passage
  /-- What stands behind the last block. -/
  tail : Text

namespace Outline

def text (ω : Outline) : Text := ω.passages.flatMap Passage.text ++ ω.tail

/-- The blocks of passages that begin at `offset`. -/
def blocksFrom (offset : Nat) : List Passage → List Block
  | [] => []
  | π :: πs => π.block offset :: blocksFrom (offset + π.text.byteLength) πs

def blocks (ω : Outline) : List Block := blocksFrom 0 ω.passages

/-- The outline with the contents of the sources as bodies. -/
def fill (contents : Path → Text) (ω : Outline) : Outline := { ω with passages := ω.passages.map (·.fill contents) }

/-- Scanning finds just these parts. -/
structure WellFormed (ω : Outline) : Prop where
  passages : ∀ π ∈ ω.passages, π.WellFormed
  tail_clear : ∀ s, s <:+ ω.tail → ∀ o r, Opening.parse? s = some (o, r) → ¬ fence <:+: r

variable {ω : Outline} {π : Passage} {πs : List Passage} {tail : Text}

@[simp] theorem text_nil (tail : Text) : text ⟨[], tail⟩ = tail := rfl

@[simp] theorem text_cons (π : Passage) (πs : List Passage) (tail : Text) :
    text ⟨π :: πs, tail⟩ = π.text ++ text ⟨πs, tail⟩ := by
  simp [text]

@[simp] theorem fill_nil (contents : Path → Text) (tail : Text) : fill contents ⟨[], tail⟩ = ⟨[], tail⟩ := rfl

theorem text_fill_cons (contents : Path → Text) (π : Passage) (πs : List Passage) (tail : Text) :
    (fill contents ⟨π :: πs, tail⟩).text = (π.fill contents).text ++ (fill contents ⟨πs, tail⟩).text := by
  simp [fill]

@[simp] theorem tail_fill (contents : Path → Text) (ω : Outline) : (ω.fill contents).tail = ω.tail := rfl

theorem wellFormed_nil : WellFormed ⟨[], []⟩ := by
  refine ⟨by simp, fun s hs o r ho => ?_⟩
  obtain rfl := List.suffix_nil.1 hs
  simp [Opening.parse?, Text.after?, fence] at ho

theorem WellFormed.head (h : WellFormed ⟨π :: πs, tail⟩) : π.WellFormed := h.passages π List.mem_cons_self

theorem WellFormed.rest (h : WellFormed ⟨π :: πs, tail⟩) : WellFormed ⟨πs, tail⟩ :=
  ⟨fun ρ hρ => h.passages ρ (List.mem_cons_of_mem π hρ), h.tail_clear⟩

theorem WellFormed.cons (hπ : π.WellFormed) (h : ω.WellFormed) : WellFormed ⟨π :: ω.passages, ω.tail⟩ := by
  refine ⟨fun ρ hρ => ?_, h.tail_clear⟩
  obtain rfl | hρ := List.mem_cons.1 hρ
  · exact hπ
  · exact h.passages ρ hρ

/-- One more character before a document is part of its first lead, or of its tail, when no block begins there. -/
theorem WellFormed.push (hω : ω.WellFormed) {c : Char} {offset : Nat}
    (h : Block.at? offset (c :: ω.text) = none) : ∃ ω' : Outline, ω'.WellFormed ∧ ω'.text = c :: ω.text := by
  obtain ⟨πs, tail⟩ := ω
  cases πs with
  | nil =>
    refine ⟨⟨[], c :: tail⟩, ⟨by simp, fun s hs o r ho => ?_⟩, rfl⟩
    obtain rfl | hs := List.suffix_cons_iff.1 hs
    · exact Block.at?_eq_none_iff.1 h o r ho
    · exact hω.tail_clear s hs o r ho
  | cons π πs =>
    rw [text_cons] at h
    refine ⟨⟨{ π with lead := c :: π.lead } :: πs, tail⟩, hω.rest.cons (hω.head.cons h), ?_⟩
    simp [Passage.text]

/-- **Every text has a well-formed outline.** Its passages are put together from the last one to the first. -/
theorem exists_of_text (t : Text) : ∃ ω : Outline, ω.WellFormed ∧ ω.text = t := by
  induction hn : t.length using Nat.strongRecOn generalizing t with
  | ind n ih =>
    subst hn
    cases t with
    | nil => exact ⟨⟨[], []⟩, wellFormed_nil, rfl⟩
    | cons c t =>
      cases h : Block.at? 0 (c :: t) with
      | none =>
        obtain ⟨ω, hω, rfl⟩ := ih t.length (by simp) t rfl
        exact hω.push h
      | some p =>
        obtain ⟨b, s⟩ := p
        obtain ⟨ω, hω, rfl⟩ := ih s.length (Block.length_lt_of_at? h) s rfl
        obtain ⟨π, hπ, -, ht⟩ := Passage.wellFormed_of_at? h
        exact ⟨_, hω.cons hπ, by rw [text_cons, ht]⟩

theorem exists_passage_of_mem_blocksFrom {offset : Nat} {b : Block} (h : b ∈ blocksFrom offset πs) :
    ∃ π ∈ πs, ∃ o, b = π.block o := by
  induction πs generalizing offset with
  | nil => simp [blocksFrom] at h
  | cons π πs ih =>
    obtain rfl | h := List.mem_cons.1 h
    · exact ⟨π, List.mem_cons_self, offset, rfl⟩
    · obtain ⟨ρ, hρ, o, rfl⟩ := ih h
      exact ⟨ρ, List.mem_cons_of_mem π hρ, o, rfl⟩

/-- A passage at the beginning of a text gives its block, and the scan goes on behind it. -/
theorem blocksFrom_passage (hπ : π.WellFormed) (offset : Nat) (r : Text) :
    Text.blocksFrom offset (π.text ++ r) = π.block offset :: Text.blocksFrom (offset + π.text.byteLength) r := by
  have hlead : ∀ s, s ≠ [] → s <:+ π.lead → ∀ o,
      Block.at? o (s ++ (π.opening.text ++ π.body ++ fence ++ r)) = none := by
    intro s hne hs o
    refine Block.at?_eq_none_iff.2 fun o' r' ho => ?_
    have := hπ.lead_clear s hne hs (π.body ++ fence ++ r)
    simp only [List.append_assoc] at this ho
    rw [this] at ho
    cases ho
  have hblock : Block.at? (offset + π.lead.byteLength) (π.opening.text ++ π.body ++ fence ++ r) =
      some (π.block offset, r) := by
    refine Block.at?_eq_some_iff.2 ⟨π.opening, π.body ++ fence ++ r, π.body, ?_, hπ.body_clear r, rfl⟩
    simpa using hπ.opening_read (π.body ++ fence ++ r)
  have htext : π.text ++ r = π.lead ++ (π.opening.text ++ π.body ++ fence ++ r) := by simp [Passage.text]
  rw [htext, Text.blocksFrom_append hlead, Text.blocksFrom_of_some hblock, Passage.stop_block]

/-- **The blocks of a text are those of its outline.** -/
theorem WellFormed.blocks_text (hω : ω.WellFormed) : ω.text.blocks = ω.blocks := by
  obtain ⟨πs, tail⟩ := ω
  suffices h : ∀ offset, Text.blocksFrom offset (text ⟨πs, tail⟩) = blocksFrom offset πs from
    (Text.blocks_eq _).trans (h 0)
  induction πs with
  | nil =>
    intro offset
    have htail : ∀ s, s ≠ [] → s <:+ tail → ∀ o, Block.at? o (s ++ []) = none := by
      intro s _ hs o
      rw [List.append_nil]
      exact Block.at?_eq_none_iff.2 (hω.tail_clear s hs)
    have := Text.blocksFrom_append htail offset
    simpa [blocksFrom, Text.blocksFrom] using this
  | cons π πs ih =>
    intro offset
    rw [text_cons, blocksFrom_passage hω.head, ih hω.rest]
    rfl

end Outline

end SnippetSync
