import SnippetSync.Proofs.Grammar

/-!
# Blocks and their written form

A block is written as its opening line, its body and a fence. What is written so is found again with the parts that it
was written from, and what is found stands in the text as it would be written.

Writing can fail to be read back for one reason only: the language tag of an opening is the longest one that fits, so if
the gap is empty and the path has the beginning of a reference in it, more of the line than the tag is read as the tag.
Blanks in the gap end every tag, and a brace at the end of the path is closed by one more.

* `OpeningLine.Proper.opens` — a line opens the text if its tag is as long as it can be.
* `WrittenBlock` — the parts from which a block is written, and `WrittenBlock.Proper`, what they may be.
* `WrittenBlock.Proper.blocks_text` — what is written is found again.
* `Block.StandsIn` — a block stands in a text as it is written; by `Block.standsIn_of_mem_blocks` all that are found do.
* `written_form_exact` — **both directions.**
-/

namespace SnippetSync

/-! ## The longest tag -/

namespace Text

/-- A word that does not have the character `x` is not completed by it. -/
theorem infix_of_infix_append_singleton {w p : Text} {x : Char} (hx : x ∉ w) (hw : w ≠ []) (h : w <:+: p ++ [x]) :
    w <:+: p := by
  obtain ⟨u, v, huv⟩ := h
  rcases before_or_behind hx huv with ⟨m, rfl, -⟩ | ⟨n, -, hn⟩
  · exact ⟨u, m, rfl⟩
  · obtain ⟨hnw, -⟩ := List.append_eq_nil_iff.1 hn.symm
    exact absurd (List.append_eq_nil_iff.1 hnw).2 hw

/-- A word whose first character it has nowhere else does not overlap itself: where it begins a text and stands a second
time, it does so behind its first stand. -/
theorem infix_of_cons_append {x : Char} {w m p p' : Text} (hx : x ∉ w) (hm : m ≠ [])
    (h : x :: w ++ p = m ++ (x :: w ++ p')) : x :: w <:+: p := by
  cases m with
  | nil => exact absurd rfl hm
  | cons c m =>
    have htail : [] ++ w ++ p = m ++ x :: (w ++ p') := (List.cons.inj h).2
    rcases before_or_behind hx htail with ⟨k, -, hk⟩ | ⟨k, hk, -⟩
    · exact ⟨k, p', by rw [hk]; simp⟩
    · simp at hk

end Text

theorem isLineEnd_eq_false_iff {c : Char} : isLineEnd c = false ↔ c ≠ '\r' ∧ c ≠ '\n' := by
  simp [isLineEnd]

theorem isLineEnd_eq_false_of_isBlank {c : Char} (h : Text.isBlank c = false) : isLineEnd c = false := by
  refine isLineEnd_eq_false_iff.2 ⟨?_, ?_⟩
  · rintro rfl
    exact absurd h (by decide)
  · rintro rfl
    exact absurd h (by decide)

namespace OpeningLine

variable {l l' : OpeningLine}

/-- The line behind its fence and without its end. -/
def content (l : OpeningLine) : Text := l.language ++ (l.gap ++ (referenceStart ++ l.path))

theorem Proper.isLineEnd_eq_false (h : l.Proper) : ∀ c ∈ l.content, isLineEnd c = false := by
  intro c hc
  have hstart : referenceStart.all (!isLineEnd ·) = true := by decide
  simp only [content, List.mem_append] at hc
  rcases hc with hc | hc | hc | hc
  · exact isLineEnd_eq_false_of_isBlank (h.isTag.clear c hc)
  · rcases h.gap c hc with rfl | rfl <;> rfl
  · simpa using List.all_eq_true.1 hstart c hc
  · exact isLineEnd_eq_false_iff.2 (h.path c hc)

theorem Proper.takeWhile_content (h : l.Proper) (r : Text) :
    (l.content ++ (lineEnd l.carriage ++ r)).takeWhile (!isLineEnd ·) = l.content := by
  have hclear : ∀ c ∈ l.content, (!isLineEnd c) = true := fun c hc => by simp [h.isLineEnd_eq_false c hc]
  obtain ⟨c, s, hcs, hc⟩ := exists_lineEnd l.carriage
  rw [hcs]
  exact takeWhile_stop hclear (by simp [hc])

theorem Proper.content_eq {r r' : Text} (hl : l.Proper) (hl' : l'.Proper) (h : l.text ++ r = l'.text ++ r') :
    l.content = l'.content := by
  have htext : ∀ (l : OpeningLine) (r : Text), l.text ++ r = fence ++ (l.content ++ (lineEnd l.carriage ++ r)) := by
    intro l r
    simp [text, content]
  rw [htext, htext] at h
  rw [← hl.takeWhile_content r, ← hl'.takeWhile_content r', List.append_cancel_left h]

/-- No tag goes on behind that of the line, if blanks end the tag or else no reference begins later in the line. -/
theorem Proper.eq_nil_of_longer (hl : l.Proper) (h : l.gap ≠ [] ∨ ¬ referenceStart <:+: l.path) {m gap path : Text}
    (hm : ∀ c ∈ m, Text.isBlank c = false)
    (hrest : l.gap ++ (referenceStart ++ l.path) = m ++ (gap ++ (referenceStart ++ path))) : m = [] := by
  by_contra hne
  cases hgap : l.gap with
  | nil =>
    rw [hgap, List.nil_append, ← List.append_assoc m] at hrest
    have hlonger : m ++ gap ≠ [] := fun hnil => hne (List.append_eq_nil_iff.1 hnil).1
    have hbrace : '\x7b' ∉ referenceStart.tail := by decide
    have hinfix : referenceStart <:+: l.path := Text.infix_of_cons_append hbrace hlonger hrest
    rcases h with h | h
    · exact h hgap
    · exact h hinfix
  | cons d gap' =>
    -- the tag would go on with a blank
    cases m with
    | nil => exact hne rfl
    | cons c m =>
      rw [hgap] at hrest
      obtain rfl : d = c := (List.cons.inj hrest).1
      have hd : Text.isBlank d = false := hm d List.mem_cons_self
      rcases hl.gap d (by simp [hgap]) with rfl | rfl
      · exact absurd hd (by decide)
      · exact absurd hd (by decide)

/-- **A line opens the text if its tag is as long as it can be.** -/
theorem Proper.opens (hl : l.Proper) (h : l.gap ≠ [] ∨ ¬ referenceStart <:+: l.path) (r : Text) :
    l.Opens (l.text ++ r) r := by
  refine ⟨hl, rfl, fun l' r' hl' heq => ?_⟩
  rcases List.append_eq_append_iff.1 (hl.content_eq hl' heq) with ⟨m, hm, hrest⟩ | ⟨m, hm, -⟩
  · obtain rfl : m = [] := hl.eq_nil_of_longer h (fun c hc => hl'.isTag.clear c (by simp [hm, hc])) hrest
    simp [hm]
  · rw [hm, List.length_append]
    omega

theorem exists_path_eq (l : OpeningLine) : ∃ closed : Bool, l.path = l.source ++ (if closed then ['}'] else []) := by
  refine ⟨l.opening.reference.closed, ?_⟩
  rw [← l.source_opening]
  exact (splitBrace_append l.path).symm

theorem Opens.blocks_text {body : Text} (h : l.Opens (l.text ++ (body ++ fence)) (body ++ fence))
    (hbody : IsBody body) : Text.blocks (l.text ++ body ++ fence) = [l.block body 0] := by
  have hread : Opening.parse? (l.text ++ (body ++ fence)) = some (l.opening, body ++ fence) :=
    parse?_eq_some_iff.2 ⟨l, h, rfl⟩
  have hsplit : Text.splitFirst? fence (body ++ fence) = some (body, []) := by simpa using hbody []
  have hat : Block.at? 0 (l.text ++ (body ++ fence)) = some (l.block body 0, []) :=
    Block.at?_eq_some_iff.2 ⟨_, _, body, hread, hsplit, (l.block_opening body 0).symm⟩
  rw [Text.blocks_eq, List.append_assoc, Text.blocksFrom_of_some hat, Text.blocksFrom]

end OpeningLine

/-! ## What is written -/

/-- The parts from which a block is written. -/
structure WrittenBlock where
  tag : Text
  gap : Text
  path : Text
  carriage : Bool
  contents : Text

namespace WrittenBlock

/-- The parts are made of the characters that they may be made of, and if nothing stands between the tag and the
reference, no other reference begins in the path. -/
structure Proper (w : WrittenBlock) : Prop where
  tag_ne_nil : w.tag ≠ []
  tag : ∀ c ∈ w.tag, ¬ Text.isBlank c
  gap : ∀ c ∈ w.gap, c = ' ' ∨ c = '\t'
  path_ne_nil : w.path ≠ []
  path : ∀ c ∈ w.path, c ≠ '\r' ∧ c ≠ '\n'
  separate : w.gap ≠ [] ∨ ¬ referenceStart <:+: w.path
  contents : ¬ fence <:+: w.contents

/-- The opening line, closed by a brace. -/
def opening (w : WrittenBlock) : Text :=
  fence ++ w.tag ++ w.gap ++ referenceStart ++ w.path ++ ['}'] ++ lineEnd w.carriage

def text (w : WrittenBlock) : Text := w.opening ++ w.contents ++ ['\n'] ++ fence

/-- The block that is the whole of what is written. -/
def block (w : WrittenBlock) : Block :=
  let pathStart := (fence ++ w.tag ++ w.gap ++ referenceStart).byteLength
  { span := ⟨0, w.text.byteLength⟩
    opening := w.opening
    language := w.tag
    source := w.path
    sourceSpan := ⟨pathStart, pathStart + w.path.byteLength⟩
    body := w.contents ++ ['\n'] }

/-- The opening line with the brace as part of what names the source. -/
def line (w : WrittenBlock) : OpeningLine := ⟨w.tag, w.gap, w.path ++ ['}'], w.carriage⟩

variable {w : WrittenBlock}

theorem text_line (w : WrittenBlock) : w.line.text = w.opening := by
  simp [line, OpeningLine.text, opening]

theorem Proper.source_line (h : w.Proper) : w.line.source = w.path := by
  have hlen : 2 ≤ (w.path ++ ['}']).length := by
    have hpos := List.length_pos_iff.2 h.path_ne_nil
    rw [List.length_append, List.length_singleton]
    omega
  rw [OpeningLine.source, line, if_pos ⟨hlen, by simp⟩, List.dropLast_concat]

theorem Proper.line (h : w.Proper) : w.line.Proper := by
  refine ⟨h.tag_ne_nil, h.tag, h.gap, by simp [WrittenBlock.line], ?_⟩
  intro c hc
  rcases List.mem_append.1 hc with hc | hc
  · exact h.path c hc
  · obtain rfl : c = '}' := List.mem_singleton.1 hc
    decide

/-- **What is written is found again**, and nothing else. -/
theorem Proper.blocks_text (h : w.Proper) : w.text.blocks = [w.block] := by
  have hseparate : w.line.gap ≠ [] ∨ ¬ referenceStart <:+: w.line.path := by
    refine h.separate.imp_right fun hpath hinfix => hpath ?_
    exact Text.infix_of_infix_append_singleton (by decide) (by decide) hinfix
  have hopens := h.line.opens hseparate (w.contents ++ ['\n'] ++ fence)
  have hfound := hopens.blocks_text (isBody_append_newline.2 h.contents)
  have htext : w.line.text ++ (w.contents ++ ['\n']) ++ fence = w.text := by
    rw [text_line, text]
    simp
  have hblock : w.line.block (w.contents ++ ['\n']) 0 = w.block := by
    rw [OpeningLine.block, htext, h.source_line, text_line]
    simp [block, WrittenBlock.line]
  rw [← htext, hfound, hblock]

end WrittenBlock

/-! ## What is found -/

/-- A block stands in a text as it is written: its opening is put together from its tag, a gap, its path, a brace that
may be missing and a line end; its span holds the opening, the body and a fence, this being the first one behind the
opening; and the path stands inside the opening. -/
structure Block.StandsIn (t : Text) (b : Block) : Prop where
  language : IsTag b.language
  source_ne_nil : b.source ≠ []
  source : ∀ c ∈ b.source, c ≠ '\r' ∧ c ≠ '\n'
  opening : ∃ (gap : Text) (closed carriage : Bool), (∀ c ∈ gap, c = ' ' ∨ c = '\t') ∧
    b.opening = fence ++ b.language ++ gap ++ referenceStart ++ b.source ++ (if closed then ['}'] else []) ++
      lineEnd carriage
  span : t.slice? b.span = some (b.opening ++ b.body ++ fence)
  sourceSpan : t.slice? b.sourceSpan = some b.source
  start_le : b.span.start ≤ b.sourceSpan.start
  le_stop : b.sourceSpan.stop ≤ b.span.start + b.opening.byteLength
  body : ¬ fence <:+: b.body

theorem OpeningLine.Proper.source_ne_nil {l : OpeningLine} (h : l.Proper) : l.source ≠ [] := by
  unfold OpeningLine.source
  split
  · rename_i hpath
    rw [← List.length_pos_iff, List.length_dropLast]
    omega
  · exact h.path_ne_nil

theorem Text.Scans.exists_blockAt {t : Text} {q : Nat} {bs : List Block} (h : t.Scans q bs) :
    ∀ b ∈ bs, ∃ p, t.BlockAt p b := by
  induction h with
  | stop => exact fun b hb => absurd hb List.not_mem_nil
  | block _ hat _ _ ih =>
    intro b hb
    rcases List.mem_cons.1 hb with rfl | hb
    · exact ⟨_, hat⟩
    · exact ih b hb

theorem Text.BlockAt.standsIn {t : Text} {p : Nat} {b : Block} (h : t.BlockAt p b) : b.StandsIn t := by
  obtain ⟨before, l, body, after, rfl, rfl, hopens, hfirst, rfl⟩ := h
  obtain ⟨closed, hpath⟩ := l.exists_path_eq
  have hproper := hopens.proper
  have hbody : IsBody body := isBody_of_splitFirst? (splitFirst?_eq_some_iff.2 ⟨rfl, hfirst⟩)
  have htext : l.text = fence ++ l.language ++ l.gap ++ referenceStart ++ l.source ++
      (if closed then ['}'] else []) ++ lineEnd l.carriage := by
    rw [OpeningLine.text, hpath]
    simp
  refine ⟨hproper.isTag, hproper.source_ne_nil, ?_, ⟨l.gap, closed, l.carriage, hproper.gap, htext⟩, ?_, ?_, ?_, ?_,
    hbody.no_fence⟩
  · intro c hc
    apply hproper.path c
    rw [hpath]
    exact List.mem_append_left _ hc
  · refine slice?_eq_some_iff.2 ⟨before, after, ?_, rfl, ?_⟩
    · simp [OpeningLine.block]
    · simp [OpeningLine.block]
  · refine slice?_eq_some_iff.2 ⟨before ++ (fence ++ l.language ++ l.gap ++ referenceStart),
      (if closed then ['}'] else []) ++ lineEnd l.carriage ++ (body ++ fence ++ after), ?_, ?_, ?_⟩
    · rw [htext]
      simp [OpeningLine.block]
    · simp [OpeningLine.block]
    · simp [OpeningLine.block, Nat.add_assoc]
  · exact Nat.le_add_right _ _
  · simp only [OpeningLine.block, htext, byteLength_append]
    omega

/-- **All blocks that are found stand in the text as they are written.** -/
theorem Block.standsIn_of_mem_blocks {t : Text} {b : Block} (hb : b ∈ t.blocks) : b.StandsIn t := by
  obtain ⟨p, hp⟩ := (Text.scans_iff.2 rfl : t.Scans 0 t.blocks).exists_blockAt b hb
  exact hp.standsIn

/-- **Blocks and their written form.** A text that is written from the parts of a block, closed by a brace and with
contents that have no fence, has this block and no other: it spans the whole text, and its language, its source, its
opening and its body are what was written, whatever braces, backticks and references stand in the tag and in the path.
Conversely every block that is found in a text stands there as it is written. -/
theorem written_form_exact :
    (∀ w : WrittenBlock, w.Proper → Scanner.standard.blocks w.text = [w.block]) ∧
    ∀ (t : Text) (b : Block), b ∈ Scanner.standard.blocks t → b.StandsIn t :=
  ⟨fun _ hw => hw.blocks_text, fun _ _ hb => Block.standsIn_of_mem_blocks hb⟩

/-- A block whose tag and path have references, backticks and braces in them. -/
def nestedReference : WrittenBlock :=
  ⟨"a```\x7bsource=b\x7d", "\t ", "c \x7bsource=```\x7d\x7d", true, "``\né"⟩

theorem written_form_exact_of_nestedReference :
    nestedReference.Proper ∧ Scanner.standard.blocks nestedReference.text = [nestedReference.block] ∧
    nestedReference.block.StandsIn nestedReference.text := by
  have hfence : Text.splitFirst? fence nestedReference.contents = none := by decide
  have htag : nestedReference.tag.all (!Text.isBlank ·) = true := by decide
  have hgap : nestedReference.gap.all isGap = true := by decide
  have hpath : nestedReference.path.all (!isLineEnd ·) = true := by decide
  have hproper : nestedReference.Proper := by
    refine ⟨by decide, ?_, ?_, by decide, ?_, .inl (by decide), Text.splitFirst?_eq_none_iff.1 hfence⟩
    · simpa using htag
    · simpa [isGap] using hgap
    · simpa [isLineEnd] using hpath
  have hblocks := written_form_exact.1 nestedReference hproper
  have hmem : nestedReference.block ∈ Scanner.standard.blocks nestedReference.text := by
    rw [hblocks]
    exact List.mem_singleton_self _
  exact ⟨hproper, hblocks, written_form_exact.2 _ _ hmem⟩

end SnippetSync
