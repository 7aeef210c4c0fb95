import SnippetSync.Disk.Access
import SnippetSync.Proofs.Inlining
import SnippetSync.Proofs.Splicing

/-!
# Inlining is a substitution

Whatever the blocks of a document are, be they found or made by hand, empty, touching or out of place: inlining them
replaces all their spans at once. It succeeds just if the spans follow each other in the text, and then every piece of
the text between them is kept, as is every source.

* `Text.admits_edits_iff` — what it takes for the edits of some blocks to go together.
* `Document.text_of_inline` — the text of an inlined document, put together from pieces of what it was.
* `inline_substitutes` — **inlining is a substitution** in the document as it was.
-/

namespace SnippetSync

/-- The edits of blocks go together if each span ends where the next one starts or before. -/
theorem Text.admits_edits_iff {t : Text} {bs : List Block} {contents : Path → Text} :
    t.Admits (bs.map (·.edit contents)) ↔ ∀ i b, bs[i]? = some b → b.span.start ≤ b.span.stop ∧
      b.span.stop ≤ (bs[i + 1]?.map (·.span.start)).getD t.byteLength ∧
      t.IsBoundary b.span.start ∧ t.IsBoundary b.span.stop := by
  induction bs with
  | nil => simp [Admits]
  | cons b bs ih =>
    have hstart : Splicer.start t (bs.map (·.edit contents)) = (bs[0]?.map (·.span.start)).getD t.byteLength := by
      cases bs <;> rfl
    rw [List.map_cons, Admits, ih, hstart]
    constructor
    · rintro ⟨⟨hle, hb, hb'⟩, hstop, hbs⟩ i b' hi
      cases i with
      | zero =>
        obtain rfl : b = b' := by simpa using hi
        exact ⟨hle, hstop, hb, hb'⟩
      | succ i => exact hbs i b' hi
    · intro h
      obtain ⟨hle, hstop, hb, hb'⟩ := h 0 b rfl
      exact ⟨⟨hle, hb, hb'⟩, hstop, fun i b' hi => h (i + 1) b' hi⟩

namespace Document

variable {d : Document} {read : Reader} {base : Path} {sink : Sink} {u : Update}

theorem made_of_inline (h : (d.inline read base sink).result = .ok u) :
    ∃ floor, Splicer.Made d.text (d.blocks.map (·.edit (Reader.contents read base))) ⟨u.text, floor⟩ := by
  obtain ⟨-, -, -, ⟨floor, hfloor⟩, -⟩ := inline_eq_ok h
  exact ⟨floor, Splicer.replaceAll_reverse_eq_ok_iff.1 hfloor⟩

theorem text_of_inline (h : (d.inline read base sink).result = .ok u) :
    u.text = d.text.rewritten 0 (d.blocks.map (·.edit (Reader.contents read base))) := by
  obtain ⟨floor, hmade⟩ := made_of_inline h
  exact hmade.text_eq

/-- What an inlining comes to does not depend on the sink, if that does not make it fail. -/
theorem eq_of_inline {sink' : Sink} {u' : Update} (h : (d.inline read base sink).result = .ok u)
    (h' : (d.inline read base sink').result = .ok u') : u' = u := by
  have htext : u'.text = u.text := (text_of_inline h').trans (text_of_inline h).symm
  obtain ⟨-, -, hbefore, -, houtcomes⟩ := inline_eq_ok h
  obtain ⟨-, -, hbefore', -, houtcomes'⟩ := inline_eq_ok h'
  obtain ⟨before, text, outcomes⟩ := u
  obtain ⟨before', text', outcomes'⟩ := u'
  simp only at htext hbefore hbefore' houtcomes houtcomes'
  rw [htext, hbefore, hbefore', houtcomes, houtcomes']

theorem inline_unlimited (h : (d.inline read base sink).result = .ok u) :
    (d.inline read base Sink.unlimited).result = .ok u := by
  obtain ⟨hread, -, -, ⟨floor, hfloor⟩, -⟩ := inline_eq_ok h
  have htakes : Sink.unlimited.Takes (d.blocks.map Block.announcement).reverse := Sink.takes_of_unlimited rfl _
  obtain ⟨u', hu'⟩ := inline_of_reads hread htakes hfloor
  rw [hu', eq_of_inline h hu']

end Document

/-- **Inlining is a substitution.** If the sink takes everything, inlining any blocks succeeds just if every source can
be read and each span, not inverted and on character boundaries of the text, ends where the next one starts or before,
the last one in the text. Then the text is what stood before the first span, between the spans and behind the last one,
with the rendered blocks in between; the contents of a source are taken as they are. -/
theorem inline_substitutes (d : Document) (read : Reader) (base : Path) {sink : Sink} (h : sink.limit = none) :
    ((∃ u, (d.inline read base sink).result = .ok u) ↔
      (∀ b ∈ d.blocks, ∃ c, read (base.join b.source) = .ok c) ∧
      ∀ i b, d.blocks[i]? = some b → b.span.start ≤ b.span.stop ∧
        b.span.stop ≤ (d.blocks[i + 1]?.map (·.span.start)).getD d.text.byteLength ∧
        d.text.IsBoundary b.span.start ∧ d.text.IsBoundary b.span.stop) ∧
    ∀ u, (d.inline read base sink).result = .ok u →
      (∀ b ∈ d.blocks, read (base.join b.source) = .ok (Reader.contents read base b.source)) ∧
      u.before = d.text ∧
      u.text = d.text.rewritten 0
        (d.blocks.map fun b => ⟨b.span, b.render (Reader.contents read base b.source)⟩) ∧
      u.outcomes = d.blocks.map fun b => ⟨b, !b.isCurrent (Reader.contents read base b.source)⟩ := by
  refine ⟨⟨?_, ?_⟩, ?_⟩
  · rintro ⟨u, hu⟩
    obtain ⟨floor, hmade⟩ := Document.made_of_inline hu
    exact ⟨(Document.inline_eq_ok hu).1, Text.admits_edits_iff.1 hmade.admits⟩
  · rintro ⟨hread, hspans⟩
    have hadmits : d.text.Admits (d.blocks.map (·.edit (Reader.contents read base))) := Text.admits_edits_iff.2 hspans
    obtain ⟨s, hs⟩ := Text.exists_substitute?_iff.2 hadmits
    have hmade : Splicer.Made d.text (d.blocks.map (·.edit (Reader.contents read base))) ⟨s, _⟩ := ⟨hs, rfl⟩
    exact Document.inline_of_reads hread (Sink.takes_of_unlimited h _) (Splicer.replaceAll_reverse_eq_ok_iff.2 hmade)
  · intro u hu
    obtain ⟨hread, -, hbefore, -, houtcomes⟩ := Document.inline_eq_ok hu
    exact ⟨fun b hb => (hread b hb).eq_ok, hbefore, Document.text_of_inline hu, houtcomes⟩

/-- An empty block made by hand. -/
def emptyBlock : Block := ⟨⟨2, 2⟩, "<", [], "x", ⟨0, 0⟩, []⟩

def arrowBlock : Block := ⟨⟨2, 5⟩, ">", [], "y", ⟨0, 0⟩, "12\n"⟩

def touchingDocument : Document := ⟨"é→!", [emptyBlock, arrowBlock], 0⟩

def touchingDisk : Disk := ⟨[], [([("x" : Text)], .file (Text.bytes "1")), ([("y" : Text)], .file (Text.bytes "12"))]⟩

theorem inline_substitutes_of_touching :
    ∃ u, (touchingDocument.inline touchingDisk.readText [] Sink.unlimited).result = .ok u ∧
      (∀ i b, touchingDocument.blocks[i]? = some b → b.span.start ≤ b.span.stop ∧
        b.span.stop ≤ (touchingDocument.blocks[i + 1]?.map (·.span.start)).getD touchingDocument.text.byteLength ∧
        touchingDocument.text.IsBoundary b.span.start ∧ touchingDocument.text.IsBoundary b.span.stop) ∧
      u.text = ("é<1\n```>12\n```!" : Text) := by
  obtain ⟨u, hu⟩ : ∃ u, (touchingDocument.inline touchingDisk.readText [] Sink.unlimited).result = .ok u :=
    exists_of_isOk (by decide +kernel)
  obtain ⟨hiff, hok⟩ := @inline_substitutes touchingDocument touchingDisk.readText [] Sink.unlimited rfl
  obtain ⟨-, -, htext, -⟩ := hok u hu
  have hrewritten : touchingDocument.text.rewritten 0 (touchingDocument.blocks.map fun b =>
      ⟨b.span, b.render (Reader.contents touchingDisk.readText [] b.source)⟩) = ("é<1\n```>12\n```!" : Text) := by
    decide +kernel
  exact ⟨u, hu, (hiff.1 ⟨u, hu⟩).2, htext.trans hrewritten⟩

end SnippetSync
