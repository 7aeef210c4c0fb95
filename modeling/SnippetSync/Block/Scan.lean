import SnippetSync.Block.Opening

/-!
# Finding the blocks of a text

A block is an opening, a body and the nearest fence after the opening. The blocks of a text are found from its
beginning to its end: the first place at which a block begins, then the first such place after its closing fence, and so
on. An opening that no fence follows begins no block.

* `Block.at?` — the block at the beginning of a text, with what follows it; `Block.eq_of_at?` says that its
  opening, its body and a fence make it up.
* `Text.blocksFrom` — the blocks of a text that begins at a given offset, found just so.
* `Text.blocks` — the blocks of a text, found in one pass over it; `Text.blocks_eq` says that they are the same.
-/

namespace SnippetSync

/-- The block with this opening and body that begins at `offset`. -/
def Opening.block (o : Opening) (body : Text) (offset : Nat) : Block :=
  let head := fence ++ o.language ++ o.reference.gap ++ referenceStart
  let pathStart := offset + head.byteLength
  { span := ⟨offset, offset + (o.text ++ body ++ fence).byteLength⟩
    opening := o.text
    language := o.language
    source := o.reference.source
    sourceSpan := ⟨pathStart, pathStart + o.reference.source.byteLength⟩
    body := body }

/-- The block at the beginning of a text that begins at `offset`, with what follows the block. -/
def Block.at? (offset : Nat) (t : Text) : Option (Block × Text) := do
  let (o, r) ← Opening.parse? t
  let (body, rest) ← Text.splitFirst? fence r
  return (o.block body offset, rest)

theorem Block.eq_of_at? {offset : Nat} {t r : Text} {b : Block} (h : at? offset t = some (b, r)) :
    t = b.opening ++ b.body ++ fence ++ r := by
  simp only [at?, Option.bind_eq_bind, Option.bind_eq_some_iff, Option.pure_def, Option.some.injEq, Prod.exists,
    Prod.mk.injEq] at h
  obtain ⟨o, s, ho, body, rest, hbody, rfl, rfl⟩ := h
  have hs := Text.eq_of_splitFirst? hbody
  rw [Opening.eq_of_parse? ho]
  simp [Opening.block, hs]

theorem Block.length_lt_of_at? {offset : Nat} {t r : Text} {b : Block} (h : at? offset t = some (b, r)) :
    r.length < t.length := by
  rw [eq_of_at? h]
  simp [fence]
  omega

theorem Block.stop_of_at? {offset : Nat} {t r : Text} {b : Block} (h : at? offset t = some (b, r)) :
    b.span.stop = offset + (b.opening ++ b.body ++ fence).byteLength := by
  simp only [at?, Option.bind_eq_bind, Option.bind_eq_some_iff, Option.pure_def, Option.some.injEq, Prod.exists,
    Prod.mk.injEq] at h
  obtain ⟨o, s, -, body, rest, -, rfl, -⟩ := h
  rfl

namespace Text

/-- The blocks of a text that begins at `offset`. -/
def blocksFrom (offset : Nat) : Text → List Block
  | [] => []
  | c :: t =>
    match h : Block.at? offset (c :: t) with
    | some (b, r) =>
      have : r.length < t.length + 1 := Block.length_lt_of_at? h
      b :: blocksFrom b.span.stop r
    | none => blocksFrom (offset + c.utf8Size) t
termination_by t => t.length

/-- The block at the beginning of a text that begins at `offset`, given the longest language tag behind its first
fence. -/
def blockWith? (offset : Nat) (t : Text) (tag : Option (Opening × Text)) : Option Block := do
  let _ ← after? fence t
  let (o, r) ← tag
  let (body, _) ← splitFirst? fence r
  return o.block body offset

/-- The blocks of a text that begins at `offset`, from the character after the first `skip` ones on, given the tags of
each of its places. -/
def blocksAlong (offset skip : Nat) : Text → List (Option (Opening × Text)) → List Block
  | [], _ => []
  | c :: t, tags =>
    match skip with
    | skip + 1 => blocksAlong (offset + c.utf8Size) skip t tags.tail
    | 0 =>
      match blockWith? offset (c :: t) (tags.drop fence.length).head?.join with
      | some b =>
        b :: blocksAlong (offset + c.utf8Size) (b.opening.length + b.body.length + fence.length - 1) t tags.tail
      | none => blocksAlong (offset + c.utf8Size) 0 t tags.tail

/-- The annotated blocks of a text, in the order in which they stand. -/
def blocks (t : Text) : List Block := blocksAlong 0 0 t (Opening.tags t)

theorem blockWith?_eq (offset : Nat) (t : Text) :
    blockWith? offset t ((Opening.tags t).drop fence.length).head?.join = (Block.at? offset t).map (·.1) := by
  rw [Opening.drop_tags, Opening.head_tags]
  unfold blockWith? Block.at? Opening.parse?
  cases h : after? fence t with
  | none => rfl
  | some u =>
    obtain rfl : t.drop fence.length = u := by rw [after?_eq_some_iff.1 h, List.drop_left]
    cases ho : Opening.tagged? (t.drop fence.length) with
    | none => simp [ho]
    | some p => cases hb : splitFirst? fence p.2 <;> simp [ho, hb]

theorem blocksAlong_tags (offset skip : Nat) (t : Text) :
    blocksAlong offset skip t (Opening.tags t) = blocksFrom (offset + byteLength (t.take skip)) (t.drop skip) := by
  induction t generalizing offset skip with
  | nil => simp [blocksAlong, blocksFrom]
  | cons c t ih =>
    have htail : (Opening.tags (c :: t)).tail = Opening.tags t := rfl
    cases skip with
    | succ skip => simp [blocksAlong, htail, ih, Nat.add_assoc]
    | zero =>
      simp only [List.take_zero, List.drop_zero, byteLength_nil, Nat.add_zero]
      unfold blocksAlong blocksFrom
      simp only [blockWith?_eq, htail, ih]
      cases h : Block.at? offset (c :: t) with
      | none => simp
      | some p =>
        obtain ⟨b, r⟩ := p
        have hsplit := Block.eq_of_at? h
        have hstop := Block.stop_of_at? h
        generalize hw : b.opening ++ b.body ++ fence = w at hsplit hstop
        have hlen : b.opening.length + b.body.length + fence.length = w.length := by
          simp [← hw, Nat.add_assoc]
        cases w with
        | nil => simp [fence] at hw
        | cons d w =>
          obtain ⟨rfl, rfl⟩ : c = d ∧ t = w ++ r := by simpa using hsplit
          simp [hlen, hstop, Nat.add_assoc]

theorem blocks_eq (t : Text) : blocks t = blocksFrom 0 t := by
  simp [blocks, blocksAlong_tags]

end Text

end SnippetSync
