import SnippetSync.Proofs.Batches
import SnippetSync.Proofs.Located
import SnippetSync.Proofs.Rewriting

/-!
# Inlining as a batch

An inlining visits the blocks of a document from the last one to the first and makes each edit as it comes; it never
sorts them. The same edits can be given as a batch, which is sorted before it is made. The two come to one text because
no two blocks that a scanner finds have the same span, not even where a pattern finds empty matches or matches that
touch: so there is one way to put their edits in order, and this is the order of the document.

* `Span.Before.precedes`, `Span.Before.ne` — spans of matches are in the order of spans, and no two are the same.
* `Edit.Arranged.eq_of_nodup` — edits of different spans have no other arrangement than the one by spans.
* `Scanner.replaceAll_edits` — the edits of the blocks that a scanner finds are accepted in any order.
* `inlining_eq_batch` — **inlining comes to the text that the batch comes to.**
-/

namespace SnippetSync

namespace Span

variable {a b : Span}

theorem Before.precedes (h : a.Before b) (ha : a.start ≤ a.stop) : a.Precedes b := by
  obtain ⟨hstop, hlt⟩ := h
  unfold Precedes
  omega

theorem Before.ne (h : a.Before b) : a ≠ b := by
  rintro rfl
  obtain ⟨hstop, hlt⟩ := h
  omega

end Span

namespace Edit

variable {edits es es' : List Edit}

/-- If no two edits of a batch have the same span, the only arrangement is the one in the order of the spans. -/
theorem Arranged.eq_of_nodup (h : Arranged edits es) (hperm : edits.Perm es')
    (hordered : es'.Pairwise fun a b => a.span.Precedes b.span) (hspans : (es'.map (·.span)).Nodup) : es = es' := by
  have hsame : es.Perm es' := h.perm.trans hperm
  refine List.Perm.eq_of_pairwise ?_ h.ordered hordered hsame
  intro a b ha hb hab hba
  exact List.inj_on_of_nodup_map hspans (hsame.mem_iff.1 ha) hb (hab.antisymm hba)

end Edit

namespace Scanner

variable (s : Scanner) (t : Text) (contents : Path → Text)

theorem ordered_edits : ((s.blocks t).map (·.edit contents)).Pairwise fun a b => a.span.Precedes b.span := by
  rw [List.pairwise_map]
  refine (s.pairwise_blocks t).imp_of_mem ?_
  intro b b' hb _ hbefore
  exact hbefore.precedes (s.located_blocks t b hb).span.le

theorem nodup_spans : (((s.blocks t).map (·.edit contents)).map (·.span)).Nodup := by
  rw [List.map_map, List.Nodup, List.pairwise_map]
  exact (s.pairwise_blocks t).imp Span.Before.ne

/-- **The edits of the blocks that a scanner finds are accepted in any order**, and the text is then the one in which
all of them are made at once. -/
theorem replaceAll_edits {edits : List Edit} (h : edits.Perm ((s.blocks t).map (·.edit contents))) :
    t.replaceAll edits = .ok (t.rewritten 0 ((s.blocks t).map (·.edit contents))) := by
  have harranged := Edit.arranged_mergeSort edits
  have hsorted := harranged.eq_of_nodup h (s.ordered_edits t contents) (s.nodup_spans t contents)
  rw [hsorted] at harranged
  obtain ⟨u, floor, hrun⟩ := s.exists_replaceAll t contents
  have hmade := Splicer.replaceAll_reverse_eq_ok_iff.1 hrun
  exact (Text.replaceAll_eq_ok_iff harranged).2 ⟨hmade.admits, rfl⟩

end Scanner

/-- **Inlining comes to the text that the batch comes to.** Let the sources of all blocks that a scanner finds be
readable. Then the inlining of the scanned document into a sink that takes everything succeeds, and its text is that of
the batch which replaces the span of each block by the block rendered with the contents of its source, in whatever order
the edits are given. -/
theorem inlining_eq_batch (s : Scanner) (t : Text) (id : Nat) (read : Reader) (base : Path) (sink : Sink)
    (contents : Path → Text) (hsink : sink.limit = none)
    (hread : ∀ b ∈ s.blocks t, read (base.join b.source) = .ok (contents b.source)) :
    ∃ u, ((Document.scan s t id).inline read base sink).result = .ok u ∧
      ∀ edits : List Edit, edits.Perm ((s.blocks t).map fun b => ⟨b.span, b.render (contents b.source)⟩) →
        t.replaceAll edits = .ok u.text := by
  have hcontents : (s.blocks t).map (·.edit (Reader.contents read base)) = (s.blocks t).map (·.edit contents) := by
    refine List.map_congr_left fun b hb => ?_
    rw [Block.edit, Reader.contents_of_ok (hread b hb)]
    rfl
  obtain ⟨s', floor, hrun⟩ := s.exists_replaceAll t (Reader.contents read base)
  obtain ⟨u, hu⟩ : ∃ u, ((Document.scan s t id).inline read base sink).result = .ok u :=
    Document.inline_of_reads (fun b hb => ⟨_, hread b hb⟩) (Sink.takes_of_unlimited hsink _) hrun
  refine ⟨u, hu, fun edits hedits => ?_⟩
  have htext : u.text = t.rewritten 0 ((s.blocks t).map (·.edit (Reader.contents read base))) :=
    Document.text_of_inline hu
  rw [htext, hcontents]
  exact s.replaceAll_edits t contents hedits

/-- A pattern whose matches can touch: a sign and the path behind it. -/
def handleText : Text := "(?P<open>@)(?P<language>)(?P<source>x+)(?P<body>)"

def handleExpr : Expr :=
  .seq (.group 1 (some "open") (.literal "@"))
    (.seq (.group 2 (some "language") .empty)
      (.seq (.group 3 (some "source") (.rep (.literal "x") 1 none true)) (.group 4 (some "body") .empty)))

def handlePattern : Pattern := ⟨handleExpr.program⟩

/-- The two blocks that the pattern finds in `é@x@xx!`, the second one where the first one ends. -/
def handleBlocks : List Block :=
  [⟨⟨2, 4⟩, "@", [], "x", ⟨3, 4⟩, []⟩, ⟨⟨4, 7⟩, "@", [], "xx", ⟨5, 7⟩, []⟩]

def handleContents (source : Path) : Text := if source = "x" then "1" else "é"

def handleDisk : Disk := ⟨[], [([("x" : Text)], .file (Text.bytes "1")), ([("xx" : Text)], .file (Text.bytes "é"))]⟩

theorem inlining_eq_batch_of_handles :
    Pattern.ofText handleText = .ok handlePattern ∧
    (Scanner.pattern handlePattern).blocks "é@x@xx!" = handleBlocks ∧
    (∀ b ∈ handleBlocks, handleDisk.readText (Path.join [] b.source) = .ok (handleContents b.source)) ∧
    ∃ u, ((Document.scan (.pattern handlePattern) "é@x@xx!" 0).inline handleDisk.readText [] Sink.unlimited).result =
        .ok u ∧
      Text.replaceAll "é@x@xx!" [⟨⟨2, 4⟩, "@1\n```"⟩, ⟨⟨4, 7⟩, "@é\n```"⟩] = .ok u.text ∧
      Text.replaceAll "é@x@xx!" [⟨⟨4, 7⟩, "@é\n```"⟩, ⟨⟨2, 4⟩, "@1\n```"⟩] = .ok u.text ∧
      u.text = ("é@1\n```@é\n```!" : Text) := by
  have hblocks : (Scanner.pattern handlePattern).blocks "é@x@xx!" = handleBlocks := by decide +kernel
  have hread : ∀ b ∈ handleBlocks, handleDisk.readText (Path.join [] b.source) = .ok (handleContents b.source) := by
    decide +kernel
  obtain ⟨u, hu, hbatch⟩ := inlining_eq_batch (.pattern handlePattern) "é@x@xx!" 0 handleDisk.readText []
    Sink.unlimited handleContents rfl (hblocks ▸ hread)
  rw [hblocks] at hbatch
  have hforward := hbatch _ (.refl _)
  have hvalue : Text.replaceAll "é@x@xx!" [⟨⟨2, 4⟩, "@1\n```"⟩, ⟨⟨4, 7⟩, "@é\n```"⟩] =
      .ok ("é@1\n```@é\n```!" : Text) := by cbv
  exact ⟨rfl, hblocks, hread, u, hu, hforward, hbatch _ (.swap _ _ []), Except.ok.inj (hforward.symm.trans hvalue)⟩

end SnippetSync
