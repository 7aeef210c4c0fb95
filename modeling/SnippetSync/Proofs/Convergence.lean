import SnippetSync.Proofs.InPlace
import SnippetSync.Proofs.Rescan

/-!
# Convergence

A document that was synced in place is settled, so that a check of it succeeds and one more run leaves it as it is, just
if no source that was read has a fence in it. For the body of a block ends at the first fence: where a source has one,
the block that is written is found again with less than the source, by any later run.

* `Outline.exists_block_of_fence` — a fence in a source makes a block that is found with another body.
* `Outline.contents_of_overwrites` — sources without a fence read the same after the document is overwritten.
* `Outline.fenceFree_of_inline_again` — with a fence one inlining is not enough.
* `Inliner.Settles`, `Invocation.Settles` — one more run succeeds and leaves the document as it is.
* `convergence_iff_fenceFree` — a run settles its document just if no source that it reads has a fence.
* `not_convergent_of_fence` — a run that does not.
-/

namespace SnippetSync

namespace Outline

variable {ω : Outline} {contents : Path → Text} {base p : Path} {d d' : Disk} {sink : Sink}
  {id : Nat} {u : Update}

theorem fence_infix_text {s : Path} (hs : s ∈ ω.sources) : fence <:+: ω.text := by
  obtain ⟨π, hπ, -⟩ := List.mem_map.1 hs
  have hblock : fence <:+: π.text := (List.suffix_append _ fence).isInfix
  obtain ⟨before, behind, hpassages⟩ := List.append_of_mem hπ
  have hall : π.text <:+: ω.text :=
    ⟨before.flatMap Passage.text, behind.flatMap Passage.text ++ ω.tail, by simp [text, hpassages]⟩
  exact hblock.trans hall

/-- **A source with a fence**: the filled document has a block whose source has a fence. -/
theorem exists_block_of_fence {πs : List Passage} (hπs : ∀ π ∈ πs, π.WellFormed) {s : Path}
    (hs : s ∈ πs.map Passage.source) (hc : fence <:+: contents s) (offset : Nat) (tail : Text) :
    ∃ b ∈ Text.blocksFrom offset (fill contents ⟨πs, tail⟩).text, fence <:+: contents b.source := by
  induction πs generalizing offset with
  | nil => cases hs
  | cons π πs ih =>
    have hπ : π.WellFormed := hπs π List.mem_cons_self
    rw [text_fill_cons]
    by_cases hfence : fence <:+: contents π.source
    · -- the first block found ends at the first fence of its source
      have hbody : fence <:+: contents π.source ++ ['\n'] := hfence.trans (List.prefix_append _ _).isInfix
      cases hsplit : Text.splitFirst? fence (contents π.source ++ ['\n']) with
      | none => exact absurd hbody (Text.splitFirst?_eq_none_iff.1 hsplit)
      | some split =>
        obtain ⟨body, r⟩ := split
        let ρ : Passage := ⟨π.lead, π.opening, body⟩
        have hρ : ρ.WellFormed := ⟨hπ.opening_read, hπ.lead_clear, isBody_of_splitFirst? hsplit⟩
        have htext : (π.fill contents).text ++ (fill contents ⟨πs, tail⟩).text =
            ρ.text ++ (r ++ fence ++ (fill contents ⟨πs, tail⟩).text) := by
          rw [Passage.text_fill, Text.eq_of_splitFirst? hsplit]
          simp [ρ, Passage.text]
        rw [htext, blocksFrom_passage hρ]
        exact ⟨ρ.block offset, List.mem_cons_self, hfence⟩
    · have hmem : s ∈ πs.map Passage.source := by
        rw [List.map_cons, List.mem_cons] at hs
        rcases hs with rfl | hs
        · exact absurd hc hfence
        · exact hs
      have hρs : ∀ ρ ∈ πs, ρ.WellFormed := fun ρ hρ => hπs ρ (List.mem_cons_of_mem π hρ)
      obtain ⟨b, hb, hb'⟩ := ih hρs hmem (offset + (π.fill contents).text.byteLength)
      rw [blocksFrom_passage (hπ.fill hfence)]
      exact ⟨b, List.mem_cons_of_mem _ hb, hb'⟩

/-! ## The second run -/

/-- The sources read the same after the document is overwritten: none of them is the document, which has fences. -/
theorem contents_of_overwrites (hp : d.readText p = .ok ω.text) {t : Text} (hw : d.Overwrites p t d')
    (hnil : d.readText p = .ok [] → t = []) (hfree : ∀ s ∈ ω.sources, ¬ fence <:+: Reader.contents d.readText base s) :
    ∀ s ∈ ω.sources, d'.readText (base.join s) = d.readText (base.join s) := by
  intro s hs
  rcases hw.readText_or hnil (base.join s) with hsame | ⟨hself, -⟩
  · exact hsame
  · exfalso
    have hdocument : Reader.contents d.readText base s = ω.text := Reader.contents_of_ok (hself.trans hp)
    have hfence := fence_infix_text hs
    rw [← hdocument] at hfence
    exact hfree s hs hfence

/-- **With a fence one inlining is not enough.** The block that is found has a body without a fence, but its source has
one, be it what it was or the document itself. -/
theorem fenceFree_of_inline_again (hω : ω.WellFormed)
    (hw : d.Overwrites p (ω.fill (Reader.contents d.readText base)).text d')
    (hnil : d.readText p = .ok [] → (ω.fill (Reader.contents d.readText base)).text = [])
    (h : ((Document.scan .standard (ω.fill (Reader.contents d.readText base)).text id).inline d'.readText base
      sink).result = .ok u) (hu : u.text = (ω.fill (Reader.contents d.readText base)).text) :
    ∀ s ∈ ω.sources, ¬ fence <:+: Reader.contents d.readText base s := by
  intro s hs hc
  obtain ⟨b, hb, hfence⟩ := exists_block_of_fence hω.passages hs hc 0 ω.tail
  have hfound : b ∈ (ω.fill (Reader.contents d.readText base)).text.blocks := by
    rw [Text.blocks_eq]
    exact hb
  have hbody : IsBody b.body := isBody_of_mem_blocks hfound
  obtain ⟨ω', hω', htext⟩ := exists_of_text (ω.fill (Reader.contents d.readText base)).text
  rw [← htext] at h hu hfound
  rw [hω'.blocks_text] at hfound
  -- the body of the block is what its source holds now
  obtain ⟨-, -, rfl⟩ := inline_eq_ok hω' h
  have hfill : ω'.fill (Reader.contents d'.readText base) = ω' := (fill_eq_self_iff hω').2 hu
  have hcurrent : b.isCurrent (Reader.contents d'.readText base b.source) = true :=
    stale_update_eq_nil_iff_isCurrent.1 (stale_update_eq_nil_iff.2 hfill) b hfound
  rw [Block.isCurrent_iff.1 hcurrent] at hbody
  have hnone : ¬ fence <:+: Reader.contents d'.readText base b.source := isBody_append_newline.1 hbody
  rcases hw.readText_or hnil (base.join b.source) with hsame | ⟨-, hself⟩
  · rw [Reader.contents_congr hsame] at hnone
    exact hnone hfence
  · rw [Reader.contents_of_ok hself, ← htext] at hnone
    exact hnone (fence_infix_text (source_mem_sources hfound))

end Outline

/-! ## Runs -/

/-- One more sync in place succeeds and leaves the document as it is. -/
def Inliner.Settles (i : Inliner) (d : Disk) (p : Path) (sink : Sink) : Prop :=
  let d' := (i.syncInPlace d p sink).1
  (∃ u, (i.syncInPlace d' p sink).2.result = .ok u) ∧ (i.syncInPlace d' p sink).1.contents? p = d'.contents? p

/-- One more run succeeds and leaves the document as it is. -/
def Invocation.Settles (i : Invocation) (d : Disk) (p : Path) (stdout : Sink) : Prop :=
  let d' := (i.run d stdout).1
  (i.run d' stdout).2.code = 0 ∧ (i.run d' stdout).1.contents? p = d'.contents? p

namespace Inliner

variable {base p : Path} {d : Disk} {sink : Sink} {u : Update}

/-- What a sync in place that succeeds has done, by the outline of the document. -/
theorem exists_outline_of_syncInPlace (h : (syncInPlace ⟨.standard, base⟩ d p sink).2.result = .ok u) :
    ∃ ω : Outline, ω.WellFormed ∧ d.readText p = .ok ω.text ∧ (∀ s ∈ ω.sources, Reader.Reads d.readText base s) ∧
      sink.Takes ω.announcements ∧ u = ω.update (Reader.contents d.readText base) := by
  obtain ⟨t, ht⟩ := exists_readText_of_syncInPlace h
  obtain ⟨ω, hω, rfl⟩ := Outline.exists_of_text t
  have hinline := ((result_syncInPlace_of_readText ht).1 h).1
  exact ⟨ω, hω, ht, Outline.inline_eq_ok hω hinline⟩

/-- **What a later inlining makes of the document** that a sync in place has written: with a sink as good as the first
one, it succeeds and leaves the text as it is just if no source has a fence. -/
theorem inline_again_iff (h : (syncInPlace ⟨.standard, base⟩ d p sink).2.result = .ok u) {sink' : Sink}
    (hsink : sink' = sink ∨ sink'.limit = none) :
    (∃ u', ((Document.scan .standard u.text 0).inline (syncInPlace ⟨.standard, base⟩ d p sink).1.readText base
        sink').result = .ok u' ∧ u'.text = u.text) ↔ Reader.FenceFree d.readText base u.before := by
  have hw := overwrites_syncInPlace h
  have hnil := text_eq_nil_of_syncInPlace h
  obtain ⟨ω, hω, hp, hread, htakes, rfl⟩ := exists_outline_of_syncInPlace h
  have hiff : Reader.FenceFree d.readText base (ω.update (Reader.contents d.readText base)).before ↔ _ :=
    Outline.fenceFree_iff hω hread
  rw [hiff]
  constructor
  · rintro ⟨u', hu', htext⟩
    exact Outline.fenceFree_of_inline_again hω hw hnil hu' htext
  · intro hfree
    have htakes' : sink'.Takes ω.announcements := by
      rcases hsink with rfl | hsink
      · exact htakes
      · exact Sink.takes_of_unlimited hsink _
    exact Outline.inline_again hω hread htakes' hfree (Outline.contents_of_overwrites hp hw hnil hfree)

theorem settles_iff (h : (syncInPlace ⟨.standard, base⟩ d p sink).2.result = .ok u) :
    Settles ⟨.standard, base⟩ d p sink ↔ Reader.FenceFree d.readText base u.before := by
  have hbytes := readBytes_syncInPlace h
  have hp := Disk.readText_of_readBytes hbytes
  have hw := overwrites_syncInPlace h
  rw [← inline_again_iff h (.inl rfl)]
  unfold Settles Disk.contents?
  constructor
  · rintro ⟨⟨u', hu'⟩, hsame⟩
    have hinline := ((result_syncInPlace_of_readText hp).1 hu').1
    rw [hbytes, readBytes_syncInPlace hu'] at hsame
    exact ⟨u', hinline, Text.bytes_injective (Option.some.inj hsame)⟩
  · rintro ⟨u', hinline, htext⟩
    have hu' : (syncInPlace ⟨.standard, base⟩ (syncInPlace ⟨.standard, base⟩ d p sink).1 p sink).2.result = .ok u' :=
      (result_syncInPlace_of_readText hp).2 ⟨hinline, hw.writeText u'.text⟩
    refine ⟨⟨u', hu'⟩, ?_⟩
    rw [readBytes_syncInPlace hu', hbytes, htext]

end Inliner

/-- **Convergence, exactly.** After a sync in place that succeeds, one more succeeds too and leaves the document as it
is, just if no source of the document had a fence when it was read. So it is with two plain runs, and a check between
them succeeds just if they had none. -/
theorem convergence_iff_fenceFree (d : Disk) :
    (∀ (base p : Path) (sink : Sink) (u : Update),
      (Inliner.syncInPlace ⟨.standard, base⟩ d p sink).2.result = .ok u →
      (Inliner.Settles ⟨.standard, base⟩ d p sink ↔ Reader.FenceFree d.readText base u.before)) ∧
    (∀ (plain check : Invocation) (o o' : Options) (stdout stdout' : Sink),
      Request.parse plain.arguments = .ok (.run o) → o.check = false → o.list = false →
      Request.parse check.arguments = .ok (.run o') → o'.check = true → o'.file = o.file →
      (plain.run d stdout).2.code = 0 →
      ∃ t, d.readText o.file = .ok t ∧
        (plain.Settles d o.file stdout ↔ Reader.FenceFree d.readText [] t) ∧
        ((check.run (plain.run d stdout).1 stdout').2.code = 0 ↔ Reader.FenceFree d.readText [] t)) := by
  constructor
  · intro base p sink u h
    exact Inliner.settles_iff h
  · intro plain check o o' stdout stdout' hplain hc hl hcheck hc' hfile hcode
    have hrun := Invocation.run_plain hplain hc hl
    obtain ⟨u, hu⟩ := (hrun d stdout).2.1 hcode
    obtain ⟨ω, hω, hp, hread, -, rfl⟩ := Inliner.exists_outline_of_syncInPlace hu
    refine ⟨ω.text, hp, ?_, ?_⟩
    · have hsettles := Inliner.settles_iff hu
      unfold Inliner.Settles at hsettles
      unfold Invocation.Settles
      rw [(hrun d stdout).1]
      show _ ∧ _ ↔ _
      rw [(hrun _ stdout).2, (hrun _ stdout).1]
      exact hsettles
    · obtain ⟨-, -, hzero⟩ := Invocation.run_check hcheck hc' (plain.run d stdout).1 stdout'
      have htext := Disk.readText_of_readBytes (Inliner.readBytes_syncInPlace hu)
      have hagain := Inliner.inline_again_iff hu (.inr (rfl : Sink.unlimited.limit = none))
      refine hzero.trans (Iff.trans ?_ hagain)
      rw [hfile, (hrun d stdout).1]
      constructor
      · rintro ⟨t, u', ht, hu', hstale⟩
        obtain rfl := Except.ok.inj (htext.symm.trans ht)
        exact ⟨u', hu', (Document.stale_eq_nil_iff hu').1 hstale⟩
      · rintro ⟨u', hu', hsame⟩
        exact ⟨_, u', htext, hu', (Document.stale_eq_nil_iff hu').2 hsame⟩

theorem convergence_iff_fenceFree_of_swapped :
    (∃ u, (Inliner.syncInPlace ⟨.standard, []⟩ swappedDisk "README.md" Sink.unlimited).2.result = .ok u) ∧
    Inliner.Settles ⟨.standard, []⟩ swappedDisk "README.md" Sink.unlimited ∧
    Request.parse ["README.md"] = .ok (.run ⟨"README.md", false, false, false, false⟩) ∧
    Request.parse ["--check", "README.md"] = .ok (.run ⟨"README.md", true, false, false, false⟩) ∧
    (Invocation.run ⟨["README.md"], []⟩ swappedDisk Sink.unlimited).2.code = 0 ∧
    Invocation.Settles ⟨["README.md"], []⟩ swappedDisk "README.md" Sink.unlimited ∧
    (Invocation.run ⟨["--check", "README.md"], []⟩ (Invocation.run ⟨["README.md"], []⟩ swappedDisk Sink.unlimited).1
      Sink.unlimited).2.code = 0 := by
  have hread : swappedDisk.readText "README.md" = .ok swappedText := Disk.readText_of_readBytes rfl
  have hsplit : ∀ b ∈ swappedText.blocks,
      Text.splitFirst? fence (Reader.contents swappedDisk.readText [] b.source) = none := by decide +kernel
  have hfree : Reader.FenceFree swappedDisk.readText [] swappedText := Reader.fenceFree_of_splitFirst? hsplit
  have hcode : (Invocation.run ⟨["README.md"], []⟩ swappedDisk Sink.unlimited).2.code = 0 := by decide +kernel
  obtain ⟨u, hu⟩ : ∃ u, (Inliner.syncInPlace ⟨.standard, []⟩ swappedDisk "README.md" Sink.unlimited).2.result =
      .ok u := exists_of_isOk (by decide +kernel)
  have hbefore : u.before = swappedText := Inliner.before_of_syncInPlace hread hu
  have hlibrary := (convergence_iff_fenceFree swappedDisk).1 [] "README.md" Sink.unlimited u hu
  obtain ⟨t, ht, hsettles, hcheck⟩ := (convergence_iff_fenceFree swappedDisk).2 ⟨["README.md"], []⟩
    ⟨["--check", "README.md"], []⟩ _ _ Sink.unlimited Sink.unlimited rfl rfl rfl rfl rfl rfl hcode
  obtain rfl : swappedText = t := Except.ok.inj (hread.symm.trans ht)
  exact ⟨⟨u, hu⟩, hlibrary.2 (hbefore ▸ hfree), rfl, rfl, hcode, hsettles.2 hfree, hcheck.2 hfree⟩

def fencedDisk : Disk :=
  ⟨[], [([("README.md" : Text)], .file (Text.bytes "```py {source=a.py}\nx\n```\n")),
    ([("a.py" : Text)], .file (Text.bytes "```"))]⟩

/-- A run that does not converge: a check after it finds the block out of date, and one more run makes the document
longer. -/
theorem not_convergent_of_fence :
    (Invocation.run ⟨["-q"], []⟩ fencedDisk Sink.unlimited).2.code = 0 ∧
    (Invocation.run ⟨["--check"], []⟩ (Invocation.run ⟨["-q"], []⟩ fencedDisk Sink.unlimited).1
      Sink.unlimited).2.code = 1 ∧
    ¬ Invocation.Settles ⟨["-q"], []⟩ fencedDisk "README.md" Sink.unlimited ∧
    ¬ Inliner.Settles ⟨.standard, []⟩ fencedDisk "README.md" Sink.unlimited := by
  refine ⟨by decide +kernel, by decide +kernel, fun h => ?_, fun h => ?_⟩
  · have hsame := h.2
    revert hsame
    decide +kernel
  · have hsame := h.2
    revert hsame
    decide +kernel

end SnippetSync
