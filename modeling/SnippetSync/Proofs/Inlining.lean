import SnippetSync.Proofs.Outline
import SnippetSync.Proofs.Substitution
import SnippetSync.Sync.Inline

/-!
# What inlining makes of a document

* `Reader.contents` — what a source holds, for a source that can be read.
* `Sink.Takes` — a sink has room for some lines.
* `Progress.Visits`, `Progress.visitAll_eq_some` — what a visit of a block does, and where a visit of blocks fails.
* `Progress.visitAll_eq_none`, `Progress.visitAll_of_reads` — a visit of blocks that comes to its end has read every
  source, announced every block and made every edit; and it does come to its end if it can do all that.
* `Document.inline_eq_ok`, `Document.inline_of_reads` — the same of the inlining of a document.
* `Document.unread_of_inline` — where an inlining ends that cannot read a source.
* `Outline.substitute?_edits` — to replace the blocks of an outline at once is to fill the outline.
* `Outline.inline_eq_ok_iff` — **what inlining makes of a scanned document**: its filled outline, and each block with
  whether its body was something else.
-/

namespace SnippetSync

theorem exists_of_isOk {ε α : Type} {x : Except ε α} (h : x.isOk = true) : ∃ a, x = .ok a := by
  cases x with
  | error e => cases h
  | ok a => exact ⟨a, rfl⟩

theorem exists_of_map_toOption {ε α β : Type} {x : Except ε α} {f : α → β} {b : β} (h : x.toOption.map f = some b) :
    ∃ a, x = .ok a ∧ f a = b := by
  cases x with
  | error e => cases h
  | ok a => exact ⟨a, rfl, Option.some.inj h⟩

/-- What a source holds, as seen from the base; nothing if it cannot be read. -/
def Reader.contents (read : Reader) (base source : Path) : Text := (read (base.join source)).toOption.getD []

theorem Reader.contents_of_ok {read : Reader} {base source : Path} {c : Text} (h : read (base.join source) = .ok c) :
    Reader.contents read base source = c := by
  simp [contents, h, Except.toOption]

theorem Reader.contents_congr {read read' : Reader} {base source : Path}
    (h : read' (base.join source) = read (base.join source)) :
    Reader.contents read' base source = Reader.contents read base source := by
  rw [contents, contents, h]

def Reader.Reads (read : Reader) (base source : Path) : Prop := ∃ c, read (base.join source) = .ok c

theorem Reader.Reads.eq_ok {read : Reader} {base source : Path} (h : Reader.Reads read base source) :
    read (base.join source) = .ok (Reader.contents read base source) := by
  obtain ⟨c, hc⟩ := h
  rw [hc, Reader.contents_of_ok hc]

/-- The sink takes these lines, one after the other. -/
def Sink.Takes (s : Sink) : List Text → Prop
  | [] => True
  | l :: ls => (s.write l).2 = none ∧ (s.write l).1.Takes ls

theorem Sink.takes_of_unlimited {s : Sink} (h : s.limit = none) (ls : List Text) : s.Takes ls := by
  induction ls generalizing s with
  | nil => trivial
  | cons l ls ih =>
    have hwrite : s.write l = (⟨none, s.accepted ++ l.bytes⟩, none) := by
      rw [show s = ⟨none, s.accepted⟩ by rw [← h]]
      exact write_unlimited ..
    rw [Takes, hwrite]
    exact ⟨rfl, ih rfl⟩

/-- The edit that puts contents in place of the body of a block. -/
def Block.edit (b : Block) (contents : Path → Text) : Edit := ⟨b.span, b.render (contents b.source)⟩

def Block.outcome (b : Block) (contents : Path → Text) : Outcome := ⟨b, !b.isCurrent (contents b.source)⟩

/-! ## Visits -/

namespace Progress

variable {read : Reader} {base : Path} {id : Nat} {p p' : Progress} {b : Block} {bs : List Block}

/-- What a visit of a block does, told by how it ends. -/
inductive Visits (read : Reader) (base : Path) (id : Nat) (p : Progress) (b : Block) :
    Progress → Option Failure → Prop
  | unread {fault : Fault} (source : read (base.join b.source) = .error fault) :
      Visits read base id p b p (some (.readSource (base.join b.source) b.sourceSpan id fault))
  | unannounced {contents : Text} {sink : Sink} {fault : Fault} (source : read (base.join b.source) = .ok contents)
      (announce : p.sink.write b.announcement = (sink, some fault)) :
      Visits read base id p b { p with sink } (some (.output fault))
  | refused {contents : Text} {sink : Sink} {refusal : Refusal} (source : read (base.join b.source) = .ok contents)
      (announce : p.sink.write b.announcement = (sink, none))
      (replace : p.splicer.replace ⟨b.span, b.render contents⟩ = .error refusal) :
      Visits read base id p b { p with sink } (some (.splice refusal))
  | done {contents : Text} {sink : Sink} {splicer : Splicer} (source : read (base.join b.source) = .ok contents)
      (announce : p.sink.write b.announcement = (sink, none))
      (replace : p.splicer.replace ⟨b.span, b.render contents⟩ = .ok splicer) :
      Visits read base id p b ⟨splicer, ⟨b, !b.isCurrent contents⟩ :: p.outcomes, sink,
        p.records ++ [Record.spliced ⟨b.span, b.render contents⟩]⟩ none

theorem visits (read : Reader) (base : Path) (id : Nat) (p : Progress) (b : Block) :
    Visits read base id p b (p.visit read base id b).1 (p.visit read base id b).2 := by
  unfold visit
  dsimp only
  split
  · exact .unread ‹_›
  · split
    · exact .unannounced ‹_› ‹_›
    · split
      · exact .refused ‹_› ‹_› ‹_›
      · exact .done ‹_› ‹_› ‹_›

theorem visits_of_visit {failure? : Option Failure} (h : p.visit read base id b = (p', failure?)) :
    Visits read base id p b p' failure? := by
  have hvisits := visits read base id p b
  rw [h] at hvisits
  exact hvisits

theorem visit_eq_none (h : p.visit read base id b = (p', none)) :
    Reader.Reads read base b.source ∧ p.sink.write b.announcement = (p'.sink, none) ∧
      p.splicer.replace (b.edit (Reader.contents read base)) = .ok p'.splicer ∧
      p'.outcomes = b.outcome (Reader.contents read base) :: p.outcomes := by
  cases visits_of_visit h with
  | done source announce replace =>
    have hcontents := Reader.contents_of_ok source
    refine ⟨⟨_, source⟩, announce, ?_, ?_⟩
    · rw [Block.edit, hcontents]
      exact replace
    · rw [Block.outcome, hcontents]

theorem visit_of_reads (hread : Reader.Reads read base b.source) {sink : Sink}
    (hsink : p.sink.write b.announcement = (sink, none)) {s : Splicer}
    (hs : p.splicer.replace (b.edit (Reader.contents read base)) = .ok s) :
    ∃ p', p.visit read base id b = (p', none) ∧ p'.sink = sink ∧ p'.splicer = s := by
  unfold visit
  simp only [hread.eq_ok, hsink]
  rw [Block.edit] at hs
  simp [hs]

/-- A visit that comes to its end has read every source, announced every block and made every edit. -/
theorem visitAll_eq_none (h : p.visitAll read base id bs = (p', none)) :
    (∀ b ∈ bs, Reader.Reads read base b.source) ∧ p.sink.Takes (bs.map Block.announcement) ∧
      p.splicer.replaceAll (bs.map (·.edit (Reader.contents read base))) = .ok p'.splicer ∧
      p'.outcomes = (bs.map (·.outcome (Reader.contents read base))).reverse ++ p.outcomes := by
  induction bs generalizing p with
  | nil =>
    obtain rfl : p = p' := by simpa [visitAll] using h
    simp [Sink.Takes]
  | cons b bs ih =>
    unfold visitAll at h
    split at h
    · rename_i q hq
      obtain ⟨hread, hsink, hs, houtcomes⟩ := visit_eq_none hq
      obtain ⟨hreads, hsinks, hss, houtcomess⟩ := ih h
      refine ⟨?_, ?_, ?_, ?_⟩
      · intro b' hb'
        obtain rfl | hb' := List.mem_cons.1 hb'
        · exact hread
        · exact hreads b' hb'
      · rw [List.map_cons, Sink.Takes, hsink]
        exact ⟨rfl, hsinks⟩
      · rw [List.map_cons, Splicer.replaceAll_cons, hs]
        exact hss
      · simp [houtcomess, houtcomes]
    · simp at h

/-- A visit of blocks that fails does so at one of them, when those before it have been visited. -/
theorem visitAll_eq_some {failure : Failure} (h : p.visitAll read base id bs = (p', some failure)) :
    ∃ xs b ys q, bs = xs ++ b :: ys ∧ p.visitAll read base id xs = (q, none) ∧
      Visits read base id q b p' (some failure) := by
  induction bs generalizing p with
  | nil => simp [visitAll] at h
  | cons b bs ih =>
    unfold visitAll at h
    split at h
    · rename_i q hq
      obtain ⟨xs, b', ys, q', rfl, hxs, hvisits⟩ := ih h
      refine ⟨b :: xs, b', ys, q', rfl, ?_, hvisits⟩
      unfold visitAll
      rw [hq]
      exact hxs
    · rename_i q failure' hq
      obtain ⟨rfl, rfl⟩ : q = p' ∧ failure' = failure := by simpa using h
      exact ⟨[], b, bs, p, rfl, rfl, visits_of_visit hq⟩

theorem visitAll_of_reads (hread : ∀ b ∈ bs, Reader.Reads read base b.source)
    (hsink : p.sink.Takes (bs.map Block.announcement)) {s : Splicer}
    (hs : p.splicer.replaceAll (bs.map (·.edit (Reader.contents read base))) = .ok s) :
    ∃ p', p.visitAll read base id bs = (p', none) := by
  induction bs generalizing p with
  | nil => exact ⟨p, rfl⟩
  | cons b bs ih =>
    rw [List.map_cons, Splicer.replaceAll_cons] at hs
    cases hstep : p.splicer.replace (b.edit (Reader.contents read base)) with
    | error r => rw [hstep] at hs; cases hs
    | ok s' =>
      rw [hstep] at hs
      obtain ⟨hnone, hsinks⟩ := hsink
      have hwrite : p.sink.write b.announcement = ((p.sink.write b.announcement).1, none) := by rw [← hnone]
      obtain ⟨q, hq, hqsink, rfl⟩ := visit_of_reads (hread b List.mem_cons_self) hwrite hstep
      rw [← hqsink] at hsinks
      unfold visitAll
      rw [hq]
      exact ih (fun b' hb' => hread b' (List.mem_cons_of_mem b hb')) hsinks hs

end Progress

/-! ## Documents -/

namespace Document

variable {d : Document} {read : Reader} {base : Path} {sink : Sink} {u : Update}

/-- An inlining that succeeds has read every source, announced every block and made every edit, the last one first. -/
theorem inline_eq_ok (h : (d.inline read base sink).result = .ok u) :
    (∀ b ∈ d.blocks, Reader.Reads read base b.source) ∧ sink.Takes (d.blocks.map Block.announcement).reverse ∧
      u.before = d.text ∧
      (∃ floor, (Splicer.ofText d.text).replaceAll
        (d.blocks.map (·.edit (Reader.contents read base))).reverse = .ok ⟨u.text, floor⟩) ∧
      u.outcomes = d.blocks.map (·.outcome (Reader.contents read base)) := by
  unfold inline at h
  split at h
  · rename_i p hp
    obtain ⟨hread, hsink, hs, houtcomes⟩ := Progress.visitAll_eq_none hp
    obtain rfl : _ = u := by simpa using h
    refine ⟨fun b hb => hread b (List.mem_reverse.2 hb), ?_, rfl, ⟨p.splicer.floor, ?_⟩, ?_⟩
    · rw [← List.map_reverse]
      exact hsink
    · rw [← List.map_reverse]
      exact hs
    · simpa [Progress.ofText] using houtcomes
  · simp at h

theorem unread_of_inline {path : Path} {span : Span} {id : Nat} {fault : Fault}
    (h : (d.inline read base sink).result = .error (.readSource path span id fault)) :
    ∃ before b behind, d.blocks = before ++ b :: behind ∧ id = d.id ∧ span = b.sourceSpan ∧ path = base.join b.source ∧
      read path = .error fault ∧ ∀ c ∈ behind, Reader.Reads read base c.source := by
  unfold inline at h
  split at h
  · cases h
  · rename_i p failure hp
    obtain rfl : failure = .readSource path span id fault := Except.error.inj h
    obtain ⟨xs, b, ys, q, hblocks, hxs, hvisits⟩ := Progress.visitAll_eq_some hp
    have hsplit : d.blocks = ys.reverse ++ b :: xs.reverse := by
      rw [← List.reverse_reverse d.blocks, hblocks]
      simp
    cases hvisits with
    | unread source =>
      refine ⟨ys.reverse, b, xs.reverse, hsplit, rfl, rfl, rfl, source, fun c hc => ?_⟩
      exact (Progress.visitAll_eq_none hxs).1 c (List.mem_reverse.1 hc)

theorem inline_of_reads (hread : ∀ b ∈ d.blocks, Reader.Reads read base b.source)
    (hsink : sink.Takes (d.blocks.map Block.announcement).reverse) {s : Splicer}
    (hs : (Splicer.ofText d.text).replaceAll
      (d.blocks.map (·.edit (Reader.contents read base))).reverse = .ok s) :
    ∃ u, (d.inline read base sink).result = .ok u := by
  rw [← List.map_reverse] at hs hsink
  have hvisit : ∃ p, (Progress.ofText d.text sink).visitAll read base d.id d.blocks.reverse = (p, none) :=
    Progress.visitAll_of_reads (fun b hb => hread b (List.mem_reverse.1 hb)) hsink hs
  obtain ⟨p, hp⟩ := hvisit
  unfold inline
  rw [hp]
  exact ⟨_, rfl⟩

end Document

/-! ## Outlines -/

namespace Outline

variable {ω : Outline} {read : Reader} {base : Path} {id : Nat} {sink : Sink} {u : Update}

def sources (ω : Outline) : List Path := ω.passages.map Passage.source

theorem source_blocksFrom (offset : Nat) (πs : List Passage) :
    (blocksFrom offset πs).map (·.source) = πs.map Passage.source := by
  induction πs generalizing offset with
  | nil => rfl
  | cons π πs ih => simp [blocksFrom, ih]

theorem source_mem_sources {b : Block} (hb : b ∈ ω.blocks) : b.source ∈ ω.sources := by
  have := List.mem_map_of_mem (f := Block.source) hb
  rwa [blocks, source_blocksFrom] at this

theorem forall_sources_iff {P : Path → Prop} : (∀ s ∈ ω.sources, P s) ↔ ∀ b ∈ ω.blocks, P b.source := by
  rw [sources, ← source_blocksFrom 0, List.forall_mem_map]
  rfl

/-- The lines that announce the blocks, in the order in which they are written. -/
def announcements (ω : Outline) : List Text :=
  (ω.sources.map fun s => Text.concat ["inlined ", s, "\n"]).reverse

theorem announcements_blocks (ω : Outline) : (ω.blocks.map Block.announcement).reverse = ω.announcements := by
  rw [announcements, sources, ← source_blocksFrom 0, List.map_map]
  rfl

/-- **To replace the blocks at once is to fill the outline.** -/
theorem substitute?_edits (contents : Path → Text) (offset : Nat) (πs : List Passage) (tail : Text) :
    (text ⟨πs, tail⟩).substitute? offset ((blocksFrom offset πs).map (·.edit contents)) =
      some (fill contents ⟨πs, tail⟩).text := by
  induction πs generalizing offset with
  | nil => rfl
  | cons π πs ih =>
    refine Text.substitute?_cons_eq_some_iff.2 ⟨π.lead, π.opening.text ++ π.body ++ fence, text ⟨πs, tail⟩,
      (fill contents ⟨πs, tail⟩).text, ?_, rfl, ?_, ?_, ?_⟩
    · simp [Passage.text]
    · simp [Block.edit, Passage.text, Nat.add_assoc]
    · rw [show ((π.block offset).edit contents).span.stop = _ from Passage.stop_block π offset]
      exact ih (offset + π.text.byteLength)
    · simp [text_fill_cons, Passage.text_fill, Block.edit, Block.render]

theorem replaceAll_edits (contents : Path → Text) (ω : Outline) :
    (Splicer.ofText ω.text).replaceAll (ω.blocks.map (·.edit contents)).reverse =
      .ok ⟨(ω.fill contents).text, Splicer.start ω.text (ω.blocks.map (·.edit contents))⟩ := by
  have hsub : ω.text.substitute? (Text.byteLength []) (ω.blocks.map (·.edit contents)) =
      some (ω.fill contents).text := substitute?_edits contents 0 ω.passages ω.tail
  exact Splicer.replaceAll_reverse hsub

def update (contents : Path → Text) (ω : Outline) : Update :=
  ⟨ω.text, (ω.fill contents).text, ω.blocks.map (·.outcome contents)⟩

theorem inline_eq_ok (hω : ω.WellFormed)
    (h : ((Document.scan .standard ω.text id).inline read base sink).result = .ok u) :
    (∀ s ∈ ω.sources, Reader.Reads read base s) ∧ sink.Takes ω.announcements ∧
      u = ω.update (Reader.contents read base) := by
  obtain ⟨hread, hsink, hbefore, ⟨floor, htext⟩, houtcomes⟩ := Document.inline_eq_ok h
  have hblocks : (Document.scan .standard ω.text id).blocks = ω.blocks := hω.blocks_text
  rw [hblocks] at hread hsink htext houtcomes
  have hfill : u.text = (ω.fill (Reader.contents read base)).text :=
    congrArg Splicer.text (Except.ok.inj (htext.symm.trans (replaceAll_edits _ ω)))
  refine ⟨forall_sources_iff.2 hread, ω.announcements_blocks ▸ hsink, ?_⟩
  obtain ⟨before, text, outcomes⟩ := u
  obtain rfl : before = ω.text := hbefore
  obtain rfl : outcomes = _ := houtcomes
  obtain rfl : text = _ := hfill
  rfl

/-- **What inlining makes of a scanned document**: it succeeds just if every source can be read and the sink takes what
is announced, and then it fills the outline. -/
theorem inline_eq_ok_iff (hω : ω.WellFormed) :
    ((Document.scan .standard ω.text id).inline read base sink).result = .ok u ↔
      (∀ s ∈ ω.sources, Reader.Reads read base s) ∧ sink.Takes ω.announcements ∧
        u = ω.update (Reader.contents read base) := by
  refine ⟨inline_eq_ok hω, ?_⟩
  rintro ⟨hread, hsink, rfl⟩
  have hblocks : (Document.scan .standard ω.text id).blocks = ω.blocks := hω.blocks_text
  obtain ⟨u, hu⟩ := Document.inline_of_reads (d := Document.scan .standard ω.text id)
    (by rw [hblocks]; exact forall_sources_iff.1 hread) (by rw [hblocks, announcements_blocks]; exact hsink)
    (by rw [hblocks]; exact replaceAll_edits _ ω)
  rw [hu, (inline_eq_ok hω hu).2.2]

end Outline

end SnippetSync
