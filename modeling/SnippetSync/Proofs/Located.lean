import SnippetSync.Proofs.InPlace
import SnippetSync.Proofs.Matching
import SnippetSync.Proofs.Splicing

/-!
# Where blocks lie

The blocks of a document are stretches of its text, one behind the other, however they are found: by their standard
form or as the matches of a pattern, be it a program that matches empty texts, or whose matches touch. So each of them
can be replaced when those behind it are, and a splicer that makes the edits of a scanned document refuses none.

* `Block.Located` — a block is a stretch of the text, and so is the path of its source inside it.
* `Block.located_of_matches`, `Block.pairwise_of_matches` — where the blocks of matches are, whatever has found these.
* `Scanner.located_blocks`, `Scanner.pairwise_blocks` — where the blocks are that a scanner finds.
* `Document.exists_unread` — a source that cannot be read is named in the document.
* `Scanner.exists_replaceAll` — the edits of its blocks can be made.
* `Document.inline_ne_splice` — the edits of a scanned document are made.
* `splice_unreachable` — **no sync of a scanned document ends with a refused edit.**
-/

namespace SnippetSync

/-- The block is a stretch of the text. The path of its source is another one, which lies inside the first. -/
structure Block.Located (t : Text) (b : Block) : Prop where
  span : b.span.IsIn t
  source : t.slice? b.sourceSpan = some b.source
  start_le : b.span.start ≤ b.sourceSpan.start
  le_stop : b.sourceSpan.stop ≤ b.span.stop

/-! ## The standard form -/

namespace Passage

variable {π : Passage} {before r : Text}

theorem slice?_span (π : Passage) (before r : Text) :
    (before ++ (π.text ++ r)).slice? (π.block before.byteLength).span =
    some (π.opening.text ++ π.body ++ fence) := by
  refine Text.slice?_eq_some_iff.2 ⟨before ++ π.lead, r, by simp [text], by simp, ?_⟩
  rw [stop_block]
  simp [text]

theorem located_block (π : Passage) (before r : Text) :
    (π.block before.byteLength).Located (before ++ (π.text ++ r)) := by
  have hsource : (π.block before.byteLength).sourceSpan.stop =
      (π.block before.byteLength).sourceSpan.start + π.source.byteLength := rfl
  have hstart : (π.block before.byteLength).sourceSpan.start = (before ++ π.lead).byteLength +
      (fence ++ π.opening.language ++ π.opening.reference.gap ++ referenceStart).byteLength := by
    rw [Text.byteLength_append]
    rfl
  refine ⟨Span.isIn_of_slice? (slice?_span π before r), ?_, ?_, ?_⟩
  · refine Text.slice?_eq_some_iff.2
      ⟨before ++ π.lead ++ (fence ++ π.opening.language ++ π.opening.reference.gap ++ referenceStart),
        (if π.opening.reference.closed then ['}'] else []) ++ lineEnd π.opening.reference.carriage ++ π.body ++ fence ++
          r, ?_, ?_, ?_⟩
    · simp [text, Opening.text, Reference.text, source]
    · rw [hstart, Text.byteLength_append]
    · rw [hsource, hstart]
      simp only [Text.byteLength_append, source_block]
  · rw [hstart, start_block, Text.byteLength_append]
    omega
  · rw [hsource, hstart, stop_block]
    simp only [text, Opening.text, Reference.text, Text.byteLength_append, source]
    omega

end Passage

namespace Outline

variable {before tail : Text} {πs : List Passage}

theorem located_blocksFrom (before : Text) (πs : List Passage) (tail : Text) :
    ∀ b ∈ blocksFrom before.byteLength πs,
      b.Located (before ++ text ⟨πs, tail⟩) ∧ before.byteLength ≤ b.span.start := by
  induction πs generalizing before with
  | nil => exact fun b hb => absurd hb List.not_mem_nil
  | cons π πs ih =>
    rw [blocksFrom, List.forall_mem_cons, text_cons]
    refine ⟨⟨π.located_block before _, ?_⟩, fun b hb => ?_⟩
    · rw [Passage.start_block]
      omega
    · rw [← Text.byteLength_append] at hb
      obtain ⟨hlocated, hle⟩ := ih (before ++ π.text) b hb
      rw [List.append_assoc] at hlocated
      rw [Text.byteLength_append] at hle
      exact ⟨hlocated, by omega⟩

theorem pairwise_blocksFrom (before : Text) (πs : List Passage) :
    (blocksFrom before.byteLength πs).Pairwise fun b b' => b.span.Before b'.span := by
  induction πs generalizing before with
  | nil => exact .nil
  | cons π πs ih =>
    rw [blocksFrom, ← Text.byteLength_append]
    refine List.pairwise_cons.2 ⟨fun b hb => ?_, ih (before ++ π.text)⟩
    obtain ⟨hlocated, hle⟩ := located_blocksFrom (before ++ π.text) πs [] b hb
    have hstart := π.start_block before.byteLength
    have hstop := π.stop_block before.byteLength
    have hfence : fence.byteLength = 3 := rfl
    have hspan := hlocated.span.le
    simp only [Passage.text, Text.byteLength_append] at hle hstop
    exact ⟨by omega, by omega⟩

end Outline

/-! ## All scanners -/

theorem Block.located_of_ofMatch? {t : Text} {m : Match} {b : Block} (hm : m.Within t 0) (h : ofMatch? t m = some b) :
    b.Located t ∧ b.span = m.span := by
  simp only [ofMatch?, Option.bind_eq_bind, Option.bind_eq_some_iff, Option.pure_def, Option.some.injEq] at h
  obtain ⟨sourceSpan, hspan, _, -, opening, -, _, -, language, -, source, hsource, _, -, body, -, rfl⟩ := h
  obtain ⟨-, hstart, hstop⟩ := hm.fields .source sourceSpan hspan
  exact ⟨⟨hm.span, hsource, hstart, hstop⟩, rfl⟩

/-! Of an engine that finds matches two facts are needed: they lie in the text, and one behind the other. -/

section Matches

variable {t : Text} {ms : List Match}

theorem Block.located_of_matches (hwithin : ∀ m ∈ ms, m.Within t 0) : ∀ b ∈ ms.filterMap (ofMatch? t), b.Located t := by
  intro b hb
  obtain ⟨m, hm, hb⟩ := List.mem_filterMap.1 hb
  exact (located_of_ofMatch? (hwithin m hm) hb).1

theorem Block.pairwise_of_matches (hwithin : ∀ m ∈ ms, m.Within t 0)
    (hbefore : ms.Pairwise fun m m' => m.span.Before m'.span) :
    (ms.filterMap (ofMatch? t)).Pairwise fun b b' => b.span.Before b'.span := by
  refine List.pairwise_filterMap.2 (hbefore.imp_of_mem fun {m m'} hm hm' hmm b hb b' hb' => ?_)
  -- a block has the span of its match
  rw [(located_of_ofMatch? (hwithin m hm) hb).2, (located_of_ofMatch? (hwithin m' hm') hb').2]
  exact hmm

end Matches

namespace Scanner

theorem located_blocks (s : Scanner) (t : Text) : ∀ b ∈ s.blocks t, b.Located t := by
  intro b hb
  cases s with
  | standard =>
    obtain ⟨ω, hω, rfl⟩ := Outline.exists_of_text t
    have hb : b ∈ ω.text.blocks := hb
    rw [hω.blocks_text] at hb
    exact (Outline.located_blocksFrom [] ω.passages ω.tail b hb).1
  | pattern p => exact Block.located_of_matches (p.program.findAll_within t).1 b hb

/-- The blocks that a scanner finds stand one behind the other, and no two are the same empty place. -/
theorem pairwise_blocks (s : Scanner) (t : Text) : (s.blocks t).Pairwise fun b b' => b.span.Before b'.span := by
  cases s with
  | standard =>
    obtain ⟨ω, hω, rfl⟩ := Outline.exists_of_text t
    show (Text.blocks ω.text).Pairwise _
    rw [hω.blocks_text]
    exact Outline.pairwise_blocksFrom [] ω.passages
  | pattern p =>
    obtain ⟨hwithin, hbefore⟩ := p.program.findAll_within t
    exact Block.pairwise_of_matches hwithin hbefore

end Scanner

/-- If a source of a scanned document cannot be read, the failure tells where one of the blocks names it. -/
theorem Document.exists_unread {s : Scanner} {t : Text} {id : Nat} {read : Reader} {base : Path} {sink : Sink}
    {path : Path} {span : Span} {id' : Nat} {fault : Fault}
    (h : ((Document.scan s t id).inline read base sink).result = .error (.readSource path span id' fault)) :
    ∃ before b behind, s.blocks t = before ++ b :: behind ∧ id' = id ∧ span = b.sourceSpan ∧ b.Located t ∧
      path = base.join b.source ∧ read path = .error fault ∧ ∀ c ∈ behind, Reader.Reads read base c.source := by
  obtain ⟨before, b, behind, hblocks, hid, hspan, hpath, hread, hbehind⟩ := unread_of_inline h
  have hblocks : s.blocks t = before ++ b :: behind := hblocks
  have hb : b ∈ s.blocks t := by
    rw [hblocks]
    exact List.mem_append_right before List.mem_cons_self
  exact ⟨before, b, behind, hblocks, hid, hspan, s.located_blocks t b hb, hpath, hread, hbehind⟩

/-! ## Edits -/

/-- The edits of the blocks that a scanner finds are made, the last one first, whatever the contents are. -/
theorem Scanner.exists_replaceAll (s : Scanner) (t : Text) (contents : Path → Text) :
    ∃ u floor, (Splicer.ofText t).replaceAll ((s.blocks t).map (·.edit contents)).reverse = .ok ⟨u, floor⟩ := by
  have hin : ∀ e ∈ (s.blocks t).map (·.edit contents), e.span.IsIn t := by
    rw [List.forall_mem_map]
    exact fun b hb => (s.located_blocks t b hb).span
  have hbefore : ((s.blocks t).map (·.edit contents)).Pairwise fun e e' => e.span.stop ≤ e'.span.start :=
    List.pairwise_map.2 ((s.pairwise_blocks t).imp And.left)
  obtain ⟨u, hu⟩ := Text.exists_substitute?_iff.2 (Text.admits_of_pairwise hin hbefore)
  exact ⟨u, _, Splicer.replaceAll_reverse_eq_ok_iff.2 ⟨hu, rfl⟩⟩

theorem Progress.replaceAll_of_visitAll {read : Reader} {base : Path} {id : Nat} {p p' : Progress} {bs : List Block}
    {r : Refusal} (h : p.visitAll read base id bs = (p', some (.splice r))) :
    p.splicer.replaceAll (bs.map (·.edit (Reader.contents read base))) = .error r := by
  obtain ⟨xs, b, ys, q, rfl, hxs, hvisits⟩ := visitAll_eq_some h
  obtain ⟨-, -, hreplaceAll, -⟩ := visitAll_eq_none hxs
  cases hvisits with
  | refused source _ replace =>
    have hedit : q.splicer.replace (b.edit (Reader.contents read base)) = .error r := by
      rw [Block.edit, Reader.contents_of_ok source]
      exact replace
    rw [List.map_append, Splicer.replaceAll_append_eq, hreplaceAll, List.map_cons]
    show Splicer.replaceAll q.splicer (_ :: _) = _
    rw [Splicer.replaceAll_cons, hedit]
    rfl

/-- **The edits of a scanned document are made.** -/
theorem Document.inline_ne_splice (s : Scanner) (t : Text) (id : Nat) (read : Reader) (base : Path) (sink : Sink)
    (r : Refusal) : ((Document.scan s t id).inline read base sink).result ≠ .error (.splice r) := by
  intro h
  unfold inline at h
  split at h
  · cases h
  · rename_i p failure hp
    obtain rfl : failure = .splice r := Except.error.inj h
    obtain ⟨u, floor, hok⟩ := s.exists_replaceAll t (Reader.contents read base)
    have hrefused := Progress.replaceAll_of_visitAll hp
    rw [List.map_reverse] at hrefused
    have hok' := hok.symm.trans hrefused
    cases hok'

/-- **No sync of a scanned document ends with a refused edit.** However the blocks of a text are found, their spans are
not inverted, lie in the text on character boundaries, and each ends where the next one starts or before. So whatever
the sources hold and the sink takes, no edit is refused when the document is inlined or synced. -/
theorem splice_unreachable (s : Scanner) :
    (∀ t : Text, (∀ b ∈ s.blocks t, b.span.start ≤ b.span.stop ∧ t.IsBoundary b.span.start ∧
        t.IsBoundary b.span.stop) ∧
      (s.blocks t).Pairwise fun b b' => b.span.stop ≤ b'.span.start) ∧
    (∀ (t : Text) (id : Nat) (read : Reader) (base : Path) (sink : Sink) (r : Refusal),
      ((Document.scan s t id).inline read base sink).result ≠ .error (.splice r)) ∧
    (∀ (base : Path) (d : Disk) (p : Path) (sink : Sink) (r : Refusal),
      (Inliner.sync ⟨s, base⟩ d p sink).result ≠ .error (.splice r) ∧
      (Inliner.syncInPlace ⟨s, base⟩ d p sink).2.result ≠ .error (.splice r)) := by
  have hsync : ∀ (base : Path) (d : Disk) (p : Path) (sink : Sink) (r : Refusal),
      (Inliner.sync ⟨s, base⟩ d p sink).result ≠ .error (.splice r) := by
    intro base d p sink r h
    unfold Inliner.sync readDocument at h
    cases hread : d.readText p with
    | error fault => simp [hread, Except.mapError] at h
    | ok t =>
      simp only [hread, Except.mapError] at h
      exact Document.inline_ne_splice s t 0 d.readText base sink r h
  refine ⟨fun t => ⟨fun b hb => ?_, (s.pairwise_blocks t).imp And.left⟩, Document.inline_ne_splice s, ?_⟩
  · have hspan := (s.located_blocks t b hb).span
    exact ⟨hspan.le, hspan.start, hspan.stop⟩
  · intro base d p sink r
    refine ⟨hsync base d p sink r, fun h => ?_⟩
    rcases Inliner.result_syncInPlace_eq_error_iff.1 h with h | ⟨u, fault, -, -, h⟩
    · exact hsync base d p sink r h
    · cases h

/-- A pattern whose matches may be empty, and touch. -/
def looseText : Text := "(?P<open>x*)(?P<language>)(?P<source>)(?P<body>)"

def looseExpr : Expr :=
  .seq (.group 1 (some "open") (.rep (.literal "x") 0 none true))
    (.seq (.group 2 (some "language") .empty) (.seq (.group 3 (some "source") .empty) (.group 4 (some "body") .empty)))

def loosePattern : Pattern := ⟨looseExpr.program⟩

/-- The empty block that the pattern finds behind `xé`. -/
def looseBlock : Block := ⟨⟨3, 3⟩, [], [], [], ⟨3, 3⟩, []⟩

theorem splice_unreachable_of_loose :
    Pattern.ofText looseText = .ok loosePattern ∧ looseBlock ∈ (Scanner.pattern loosePattern).blocks "xé" ∧
      looseBlock.span.start ≤ looseBlock.span.stop ∧ Text.IsBoundary "xé" looseBlock.span.start ∧
      Text.IsBoundary "xé" looseBlock.span.stop := by
  have hmem : looseBlock ∈ (Scanner.pattern loosePattern).blocks "xé" := by decide +kernel
  exact ⟨rfl, hmem, ((splice_unreachable (.pattern loosePattern)).1 "xé").1 looseBlock hmem⟩

end SnippetSync
