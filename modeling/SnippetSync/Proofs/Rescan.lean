import SnippetSync.Proofs.Staleness

/-!
# Scanning again

What a scan finds after the blocks of a document are inlined. If no source has a fence in it, these are the same blocks
with new bodies, and nothing else; for what stands between them is the same, and what is read as an opening ends within
its line. If a source has a fence, its block ends there, and the blocks found are not these.

* `Block.Rendered` — a block that is found again, with contents as its body.
* `drift` — the bytes by which what follows some blocks moves when they are rendered.
* `Reader.FenceFree` — no source of a text has a fence.
* `Outline.WellFormed.fill` — a filling without fences is found just as it was made.
* `Outline.inline_again` — without fences one inlining is enough.
* `rescan_iff` — the blocks are found again just if no source has a fence, and then a second inlining changes nothing.
-/

namespace SnippetSync

/-- `b'` is `b` with contents as its body, `shift` bytes further on. -/
structure Block.Rendered (b b' : Block) (contents : Text) (shift : Int) : Prop where
  opening : b'.opening = b.opening
  language : b'.language = b.language
  source : b'.source = b.source
  body : b'.body = contents ++ ['\n']
  start : (b'.span.start : Int) = b.span.start + shift

/-- The bytes by which what follows these blocks moves when they are rendered. -/
def drift (contents : Path → Text) (bs : List Block) : Int :=
  (bs.map fun b => ((b.render (contents b.source)).byteLength : Int) - b.span.length).sum

/-- No source of a block of the text has a fence. -/
def Reader.FenceFree (read : Reader) (base : Path) (t : Text) : Prop :=
  ∀ b ∈ t.blocks, ∀ c, read (base.join b.source) = .ok c → ¬ fence <:+: c

theorem Reader.fenceFree_of_splitFirst? {read : Reader} {base : Path} {t : Text}
    (h : ∀ b ∈ t.blocks, Text.splitFirst? fence (Reader.contents read base b.source) = none) :
    Reader.FenceFree read base t := by
  intro b hb c hc
  rw [← Reader.contents_of_ok hc]
  exact Text.splitFirst?_eq_none_iff.1 (h b hb)

namespace Outline

variable {ω : Outline} {contents : Path → Text}

theorem length_blocksFrom (offset : Nat) (πs : List Passage) : (blocksFrom offset πs).length = πs.length := by
  induction πs generalizing offset with
  | nil => rfl
  | cons π πs ih => simp [blocksFrom, ih]

@[simp] theorem sources_fill (contents : Path → Text) (ω : Outline) : (ω.fill contents).sources = ω.sources := by
  simp [sources, fill]

@[simp] theorem fill_fill (contents contents' : Path → Text) (ω : Outline) :
    (ω.fill contents').fill contents = ω.fill contents := by
  simp [fill, Passage.fill, Passage.source, Function.comp_def]

/-- **A filling without fences is found just as it was made.** -/
theorem WellFormed.fill (hω : ω.WellFormed) (hc : ∀ s ∈ ω.sources, ¬ fence <:+: contents s) :
    (ω.fill contents).WellFormed := by
  refine ⟨fun ρ hρ => ?_, hω.tail_clear⟩
  obtain ⟨π, hπ, rfl⟩ := List.mem_map.1 hρ
  exact (hω.passages π hπ).fill (hc π.source (List.mem_map_of_mem hπ))

/-- The blocks of a filling, one by one: each is the block of the outline, moved by what the blocks before it grow. -/
theorem rendered_blocksFrom {πs : List Passage} {offset offset' i : Nat} {b b' : Block}
    (hb : (blocksFrom offset πs)[i]? = some b)
    (hb' : (blocksFrom offset' (πs.map (·.fill contents)))[i]? = some b') :
    b.Rendered b' (contents b.source) (offset' - offset + drift contents ((blocksFrom offset πs).take i)) := by
  induction πs generalizing offset offset' i with
  | nil => simp [blocksFrom] at hb
  | cons π πs ih =>
    cases i with
    | zero =>
      obtain rfl : π.block offset = b := by simpa [blocksFrom] using hb
      obtain rfl : (π.fill contents).block offset' = b' := by simpa [blocksFrom] using hb'
      refine ⟨rfl, rfl, rfl, rfl, ?_⟩
      simp [drift]
      omega
    | succ i =>
      have h := ih (i := i) (by simpa [blocksFrom] using hb) (by simpa [blocksFrom] using hb')
      refine ⟨h.opening, h.language, h.source, h.body, ?_⟩
      rw [h.start, blocksFrom, List.take_succ_cons, drift, drift, List.map_cons, List.sum_cons]
      simp [Block.render, Passage.text]
      omega

theorem fenceFree_iff {read : Reader} {base : Path} (hω : ω.WellFormed)
    (hread : ∀ s ∈ ω.sources, Reader.Reads read base s) :
    Reader.FenceFree read base ω.text ↔ ∀ s ∈ ω.sources, ¬ fence <:+: Reader.contents read base s := by
  rw [forall_sources_iff] at hread ⊢
  unfold Reader.FenceFree
  rw [hω.blocks_text]
  constructor
  · intro h b hb
    exact h b hb _ (hread b hb).eq_ok
  · intro h b hb c hc
    rw [← Reader.contents_of_ok hc]
    exact h b hb

theorem fill_congr {contents' : Path → Text} (h : ∀ s ∈ ω.sources, contents' s = contents s) :
    ω.fill contents' = ω.fill contents := by
  have hfill : ∀ π ∈ ω.passages, π.fill contents' = π.fill contents := by
    intro π hπ
    have hs : contents' π.source = contents π.source := h π.source (List.mem_map_of_mem hπ)
    rw [Passage.fill, Passage.fill, hs]
  rw [fill, fill, List.map_congr_left hfill]

/-- **Without fences one inlining is enough**: where the sources still read the same, one more succeeds and leaves the
text as it is. -/
theorem inline_again {read read' : Reader} {base : Path} {sink : Sink} {id : Nat} (hω : ω.WellFormed)
    (hread : ∀ s ∈ ω.sources, Reader.Reads read base s) (hsink : sink.Takes ω.announcements)
    (hfree : ∀ s ∈ ω.sources, ¬ fence <:+: Reader.contents read base s)
    (hsame : ∀ s ∈ ω.sources, read' (base.join s) = read (base.join s)) :
    ∃ u, ((Document.scan .standard (ω.fill (Reader.contents read base)).text id).inline read' base sink).result =
      .ok u ∧ u.text = (ω.fill (Reader.contents read base)).text := by
  have hcontents : ∀ s ∈ ω.sources, Reader.contents read' base s = Reader.contents read base s :=
    fun s hs => Reader.contents_congr (hsame s hs)
  have hread' : ∀ s ∈ (ω.fill (Reader.contents read base)).sources, Reader.Reads read' base s := by
    intro s hs
    rw [sources_fill] at hs
    rw [Reader.Reads, hsame s hs]
    exact hread s hs
  have hsink' : sink.Takes (ω.fill (Reader.contents read base)).announcements := by
    rw [announcements, sources_fill]
    exact hsink
  refine ⟨_, (inline_eq_ok_iff (hω.fill hfree)).2 ⟨hread', hsink', rfl⟩, ?_⟩
  show ((ω.fill _).fill _).text = _
  rw [fill_fill, fill_congr hcontents]

end Outline

theorem isBody_of_mem_blocks {t : Text} {b : Block} (hb : b ∈ t.blocks) : IsBody b.body := by
  obtain ⟨ω, hω, rfl⟩ := Outline.exists_of_text t
  rw [hω.blocks_text] at hb
  obtain ⟨π, hπ, offset, rfl⟩ := Outline.exists_passage_of_mem_blocksFrom hb
  exact (hω.passages π hπ).body_clear

/-- **Scanning again.** An inlining that succeeds has read every source. The blocks found in its text are those of the
document with the contents of the sources as bodies, each moved by what the blocks before it have grown, just if no
source has a fence; and then to inline the text again succeeds, gives the same text, and marks no block as changed. -/
theorem rescan_iff {t : Text} {id : Nat} {read : Reader} {base : Path} {sink : Sink} {u : Update}
    (h : ((Document.scan .standard t id).inline read base sink).result = .ok u) :
    (∀ b ∈ t.blocks, read (base.join b.source) = .ok (Reader.contents read base b.source)) ∧
    ((u.text.blocks.length = t.blocks.length ∧ ∀ (i : Nat) (b b' : Block),
        t.blocks[i]? = some b → u.text.blocks[i]? = some b' → b.Rendered b' (Reader.contents read base b.source)
          (drift (Reader.contents read base) (t.blocks.take i))) ↔
      ∀ b ∈ t.blocks, ¬ fence <:+: Reader.contents read base b.source) ∧
    ((∀ b ∈ t.blocks, ¬ fence <:+: Reader.contents read base b.source) →
      ∀ (id' : Nat) (sink' : Sink), sink'.limit = none →
        ∃ u', ((Document.scan .standard u.text id').inline read base sink').result = .ok u' ∧ u'.text = u.text ∧
          ∀ o ∈ u'.outcomes, o.changed = false) := by
  obtain ⟨ω, hω, rfl⟩ := Outline.exists_of_text t
  obtain ⟨hread, -, rfl⟩ := Outline.inline_eq_ok hω h
  have hfree : (∀ b ∈ ω.text.blocks, ¬ fence <:+: Reader.contents read base b.source) →
      ∀ s ∈ ω.sources, ¬ fence <:+: Reader.contents read base s := by
    intro hc
    rw [hω.blocks_text] at hc
    exact Outline.forall_sources_iff.2 hc
  refine ⟨?_, ⟨?_, ?_⟩, ?_⟩
  · intro b hb
    rw [hω.blocks_text] at hb
    exact (Outline.forall_sources_iff.1 hread b hb).eq_ok
  · -- a body that is found has no fence
    rintro ⟨hlen, hblocks⟩ b hb hc
    obtain ⟨i, hi⟩ := List.mem_iff_getElem?.1 hb
    have hlt : i < (ω.update (Reader.contents read base)).text.blocks.length := by
      rw [hlen]
      exact (List.getElem?_eq_some_iff.1 hi).1
    have hb' := List.getElem?_eq_getElem hlt
    have hbody := isBody_of_mem_blocks (List.mem_of_getElem? hb')
    rw [(hblocks i b _ hi hb').body, isBody_append_newline] at hbody
    exact hbody hc
  · intro hc
    have hfill : (ω.update (Reader.contents read base)).text.blocks = (ω.fill (Reader.contents read base)).blocks :=
      (hω.fill (hfree hc)).blocks_text
    rw [hfill, hω.blocks_text, Outline.blocks, Outline.blocks, Outline.length_blocksFrom, Outline.length_blocksFrom]
    refine ⟨by simp [Outline.fill], fun i b b' hb hb' => ?_⟩
    have hrendered := Outline.rendered_blocksFrom hb hb'
    simpa using hrendered
  · intro hc id' sink' hsink
    obtain ⟨u', hu', htext⟩ := Outline.inline_again hω hread (Sink.takes_of_unlimited hsink _) (hfree hc)
      fun _ _ => rfl
    have hstale : u'.stale = [] := (Document.stale_eq_nil_iff hu').2 htext
    refine ⟨u', hu', htext, ?_⟩
    simpa [Update.stale] using hstale

theorem rescan_iff_of_swapped :
    ∃ u, ((Document.scan .standard swappedText 0).inline swappedDisk.readText [] Sink.unlimited).result = .ok u ∧
      u.text = refreshedText ∧ u.stale = swappedText.blocks ∧ u.text.blocks.length = 2 ∧
      (u.text.blocks.length = swappedText.blocks.length ∧ ∀ (i : Nat) (b b' : Block),
        swappedText.blocks[i]? = some b → u.text.blocks[i]? = some b' →
          b.Rendered b' (Reader.contents swappedDisk.readText [] b.source)
            (drift (Reader.contents swappedDisk.readText []) (swappedText.blocks.take i))) ∧
      ∃ u', ((Document.scan .standard u.text 0).inline swappedDisk.readText [] Sink.unlimited).result = .ok u' ∧
        u'.text = u.text ∧ ∀ o ∈ u'.outcomes, o.changed = false := by
  obtain ⟨u, hu, htext, hstale⟩ := inline_swapped
  have hlength : u.text.blocks.length = 2 := by
    rw [htext]
    decide +kernel
  have hsplit : ∀ b ∈ swappedText.blocks,
      Text.splitFirst? fence (Reader.contents swappedDisk.readText [] b.source) = none := by decide +kernel
  have hc : ∀ b ∈ swappedText.blocks, ¬ fence <:+: Reader.contents swappedDisk.readText [] b.source :=
    fun b hb => Text.splitFirst?_eq_none_iff.1 (hsplit b hb)
  obtain ⟨-, hiff, hagain⟩ := rescan_iff hu
  exact ⟨u, hu, htext, hstale, hlength, hiff.2 hc, hagain hc 0 Sink.unlimited rfl⟩

end SnippetSync
