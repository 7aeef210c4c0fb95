import SnippetSync.Proofs.Outline
import SnippetSync.Scanner

/-!
# The grammar of blocks

What the standard scanner finds, told by what a block looks like and not by how it is read.

* `OpeningLine` — the line that opens a block in its parts, and `OpeningLine.Opens`, that it opens a text: of all such
  lines the one with the longest language tag.
* `Text.BlockAt` — a block stands at an offset of a text.
* `Text.Scans` — the blocks that are found one after the other, each at the least offset at which there is one.
* `OpeningLine.parse?_eq_some_iff` — what is read as an opening is the line that opens the text.
* `Block.blockAt_iff` — a block is read where one stands.
* `Text.scans_iff` — **the blocks of a text are those of its grammar.**
-/

namespace SnippetSync

/-- A line that opens a block, in its parts. -/
structure OpeningLine where
  language : Text
  gap : Text
  /-- What names the source, with the brace behind it if there is one. -/
  path : Text
  carriage : Bool

namespace OpeningLine

def text (l : OpeningLine) : Text := fence ++ l.language ++ l.gap ++ referenceStart ++ l.path ++ lineEnd l.carriage

/-- The path of the source: what names it without a brace at its end, unless the brace is all there is. -/
def source (l : OpeningLine) : Path :=
  if 2 ≤ l.path.length ∧ l.path.getLast? = some '}' then l.path.dropLast else l.path

structure Proper (l : OpeningLine) : Prop where
  language_ne_nil : l.language ≠ []
  language : ∀ c ∈ l.language, ¬ Text.isBlank c
  gap : ∀ c ∈ l.gap, c = ' ' ∨ c = '\t'
  path_ne_nil : l.path ≠ []
  path : ∀ c ∈ l.path, c ≠ '\r' ∧ c ≠ '\n'

/-- The line stands at the beginning of the text, and no line with a longer language tag does. -/
structure Opens (l : OpeningLine) (t rest : Text) : Prop where
  proper : l.Proper
  text_eq : t = l.text ++ rest
  longest : ∀ (l' : OpeningLine) (rest' : Text), l'.Proper → t = l'.text ++ rest' →
    l'.language.length ≤ l.language.length

def opening (l : OpeningLine) : Opening :=
  ⟨l.language, ⟨l.gap, (splitBrace l.path).1, (splitBrace l.path).2, l.carriage⟩⟩

end OpeningLine

/-- The block that the line and a body make up with a fence, where the line begins at `p`. -/
def OpeningLine.block (l : OpeningLine) (body : Text) (p : Nat) : Block :=
  let pathStart := p + (fence ++ l.language ++ l.gap ++ referenceStart).byteLength
  { span := ⟨p, p + (l.text ++ body ++ fence).byteLength⟩
    opening := l.text
    language := l.language
    source := l.source
    sourceSpan := ⟨pathStart, pathStart + l.source.byteLength⟩
    body := body }

/-- The block stands at this offset of the text: a line opens the text there, and behind the line there is a body up to
the first fence. -/
def Text.BlockAt (t : Text) (p : Nat) (b : Block) : Prop :=
  ∃ (before : Text) (l : OpeningLine) (body after : Text),
    t = before ++ (l.text ++ (body ++ fence ++ after)) ∧ before.byteLength = p ∧
    l.Opens (l.text ++ (body ++ fence ++ after)) (body ++ fence ++ after) ∧
    (∀ body' after', body ++ fence ++ after = body' ++ fence ++ after' → body.length ≤ body'.length) ∧
    b = l.block body p

/-- From an offset on these blocks are found, each at the least offset at which one stands, and the next one behind it.
-/
inductive Text.Scans (t : Text) : Nat → List Block → Prop
  | stop {q : Nat} (none : ∀ p b, q ≤ p → ¬ t.BlockAt p b) : Scans t q []
  | block {q p : Nat} {b : Block} {bs : List Block} (le : q ≤ p) (at_least : t.BlockAt p b)
      (least : ∀ p' b', q ≤ p' → t.BlockAt p' b' → p ≤ p') (rest : Scans t b.span.stop bs) : Scans t q (b :: bs)

/-! ## What is read -/

theorem takeWhile_stop {p : Char → Bool} {l r : Text} {c : Char} (hl : ∀ x ∈ l, p x = true) (hc : p c = false) :
    (l ++ c :: r).takeWhile p = l := by
  rw [List.takeWhile_append_of_pos hl, List.takeWhile_cons_of_neg (by simp [hc]), List.append_nil]

theorem dropWhile_stop {p : Char → Bool} {l r : Text} {c : Char} (hl : ∀ x ∈ l, p x = true) (hc : p c = false) :
    (l ++ c :: r).dropWhile p = c :: r := by
  rw [List.dropWhile_append_of_pos hl, List.dropWhile_cons_of_neg (by simp [hc])]

theorem lineEnd?_lineEnd (b : Bool) (r : Text) : lineEnd? (lineEnd b ++ r) = some (b, r) := by
  cases b <;> rfl

theorem exists_lineEnd (b : Bool) : ∃ c s, lineEnd b = c :: s ∧ isLineEnd c = true := by
  cases b with
  | false => exact ⟨'\n', [], rfl, rfl⟩
  | true => exact ⟨'\r', ['\n'], rfl, rfl⟩

theorem Reference.parse?_eq_some_iff {t r : Text} {a : Reference} : parse? t = some (a, r) ↔
    ∃ gap path carriage, t = gap ++ (referenceStart ++ (path ++ (lineEnd carriage ++ r))) ∧
      (∀ c ∈ gap, isGap c = true) ∧ path ≠ [] ∧ (∀ c ∈ path, isLineEnd c = false) ∧
      a = ⟨gap, (splitBrace path).1, (splitBrace path).2, carriage⟩ := by
  constructor
  · intro h
    simp only [parse?, Option.bind_eq_bind, Option.bind_eq_some_iff, Option.pure_def, Option.some.injEq,
      Prod.exists, Prod.mk.injEq] at h
    obtain ⟨x, hx, _, hguard, carriage, rest, hend, rfl, rfl⟩ := h
    refine ⟨t.takeWhile isGap, x.takeWhile (!isLineEnd ·), carriage, ?_, ?_, ?_, ?_, rfl⟩
    · rw [← eq_of_lineEnd? hend, List.takeWhile_append_dropWhile, ← Text.after?_eq_some_iff.1 hx,
        List.takeWhile_append_dropWhile]
    · exact List.all_eq_true.1 List.all_takeWhile
    · intro hnil
      simp [hnil, guard] at hguard
    · intro c hc
      simpa using List.all_eq_true.1 List.all_takeWhile c hc
  · rintro ⟨gap, path, carriage, rfl, hgap, hne, hpath, rfl⟩
    obtain ⟨c, s, hcs, hc⟩ := exists_lineEnd carriage
    have hpath' : ∀ x ∈ path, (!isLineEnd x) = true := fun x hx => by simp [hpath x hx]
    have hstart : (gap ++ (referenceStart ++ (path ++ (lineEnd carriage ++ r)))).takeWhile isGap = gap :=
      takeWhile_stop hgap (by decide)
    have hrest : (gap ++ (referenceStart ++ (path ++ (lineEnd carriage ++ r)))).dropWhile isGap =
        referenceStart ++ (path ++ (lineEnd carriage ++ r)) := dropWhile_stop hgap (by decide)
    have hx : (path ++ (lineEnd carriage ++ r)).takeWhile (!isLineEnd ·) = path := by
      rw [hcs]
      exact takeWhile_stop hpath' (by simp [hc])
    have hy : (path ++ (lineEnd carriage ++ r)).dropWhile (!isLineEnd ·) = lineEnd carriage ++ r := by
      rw [hcs]
      exact dropWhile_stop hpath' (by simp [hc])
    simp only [parse?, hstart, hrest, Text.after?_append, hx, hy, lineEnd?_lineEnd, Option.bind_eq_bind,
      Option.bind_some]
    rw [guard, if_pos hne]
    rfl

/-- A text that can be a language tag. -/
structure IsTag (t : Text) : Prop where
  ne_nil : t ≠ []
  clear : ∀ c ∈ t, Text.isBlank c = false

theorem isTag_cons_iff {c : Char} {t : Text} : IsTag (c :: t) ↔ Text.isBlank c = false ∧ (t = [] ∨ IsTag t) := by
  constructor
  · rintro ⟨-, hclear⟩
    obtain ⟨hc, ht⟩ := List.forall_mem_cons.1 hclear
    refine ⟨hc, ?_⟩
    by_cases h : t = []
    · exact .inl h
    · exact .inr ⟨h, ht⟩
  · rintro ⟨hc, rfl | ht⟩
    · exact ⟨by simp, by simpa using hc⟩
    · exact ⟨by simp, List.forall_mem_cons.2 ⟨hc, ht.clear⟩⟩

namespace Opening

theorem tagged?_eq_none_iff {t : Text} :
    tagged? t = none ↔ ∀ language s, t = language ++ s → IsTag language → Reference.parse? s = none := by
  induction t with
  | nil =>
    simp only [tagged?, true_iff]
    intro language s h htag
    exact absurd (List.append_eq_nil_iff.1 h.symm).1 htag.ne_nil
  | cons c t ih =>
    unfold tagged?
    constructor
    · intro h language s hls htag
      obtain ⟨rfl, -⟩ | ⟨l, rfl, rfl⟩ := List.cons_eq_append_iff.1 hls
      · exact absurd rfl htag.ne_nil
      · obtain ⟨hc, hl⟩ := isTag_cons_iff.1 htag
        simp only [hc, Bool.false_eq_true, if_false] at h
        split at h
        · cases h
        · rename_i hnone
          rcases hl with rfl | hl
          · simpa using h
          · exact ih.1 hnone l s rfl hl
    · intro h
      split
      · rfl
      · rename_i hc
        have hc : Text.isBlank c = false := by simpa using hc
        have hnone : tagged? t = none := ih.2 fun l s hls hl =>
          h (c :: l) s (by rw [hls]; rfl) (isTag_cons_iff.2 ⟨hc, .inr hl⟩)
        have hparse : Reference.parse? t = none := h [c] t rfl (isTag_cons_iff.2 ⟨hc, .inl rfl⟩)
        rw [hnone, hparse]
        rfl

theorem longest_of_tagged? {t r : Text} {o : Opening} (h : tagged? t = some (o, r)) :
    ∃ s, t = o.language ++ s ∧ IsTag o.language ∧ Reference.parse? s = some (o.reference, r) ∧
      ∀ language' s', t = language' ++ s' → IsTag language' → (Reference.parse? s').isSome →
        language'.length ≤ o.language.length := by
  induction t generalizing o r with
  | nil => cases h
  | cons c t ih =>
    unfold tagged? at h
    split at h
    · cases h
    · rename_i hc
      have hc : Text.isBlank c = false := by simpa using hc
      split at h
      · rename_i o' r' hsome
        obtain ⟨rfl, rfl⟩ : _ = o ∧ r' = r := by simpa using h
        obtain ⟨s, rfl, htag, hparse, hlongest⟩ := ih hsome
        refine ⟨s, rfl, isTag_cons_iff.2 ⟨hc, .inr htag⟩, hparse, fun l' s' hls htag' hsome' => ?_⟩
        obtain ⟨rfl, -⟩ | ⟨l, rfl, hl⟩ := List.cons_eq_append_iff.1 hls
        · simp
        · rcases (isTag_cons_iff.1 htag').2 with rfl | htag'
          · simp
          · simpa using hlongest l s' hl htag' hsome'
      · rename_i hnone
        obtain ⟨⟨a, r'⟩, hparse, heq⟩ := Option.map_eq_some_iff.1 h
        obtain ⟨rfl, rfl⟩ : _ = o ∧ r' = r := by simpa using heq
        refine ⟨t, rfl, isTag_cons_iff.2 ⟨hc, .inl rfl⟩, hparse, fun l' s' hls htag' hsome' => ?_⟩
        obtain ⟨rfl, -⟩ | ⟨l, rfl, hl⟩ := List.cons_eq_append_iff.1 hls
        · simp
        · rcases (isTag_cons_iff.1 htag').2 with rfl | htag'
          · simp
          · rw [tagged?_eq_none_iff.1 hnone l s' hl htag'] at hsome'
            cases hsome'

/-- **The longest tag**: a tag is read just if a reference follows it, and none follows a longer tag. -/
theorem tagged?_eq_some_iff {t r : Text} {o : Opening} : tagged? t = some (o, r) ↔
    ∃ s, t = o.language ++ s ∧ IsTag o.language ∧ Reference.parse? s = some (o.reference, r) ∧
      ∀ language' s', t = language' ++ s' → IsTag language' → (Reference.parse? s').isSome →
        language'.length ≤ o.language.length := by
  refine ⟨longest_of_tagged?, ?_⟩
  rintro ⟨s, hls, htag, hparse, hlongest⟩
  cases h : tagged? t with
  | none =>
    rw [tagged?_eq_none_iff.1 h _ s hls htag] at hparse
    cases hparse
  | some p =>
    obtain ⟨o', r'⟩ := p
    obtain ⟨s', hls', htag', hparse', hlongest'⟩ := longest_of_tagged? h
    have hle := hlongest _ s' hls' htag' (by rw [hparse']; rfl)
    have hle' := hlongest' _ s hls htag (by rw [hparse]; rfl)
    obtain ⟨hlanguage, rfl⟩ := List.append_inj (hls'.symm.trans hls) (Nat.le_antisymm hle hle')
    obtain ⟨hreference, rfl⟩ : o'.reference = o.reference ∧ r' = r := by
      have := hparse'.symm.trans hparse
      simpa using this
    obtain ⟨language, reference⟩ := o
    obtain ⟨language', reference'⟩ := o'
    obtain rfl : language' = language := hlanguage
    obtain rfl : reference' = reference := hreference
    rfl

end Opening

namespace OpeningLine

variable {l : OpeningLine} {t r : Text} {o : Opening}

theorem source_opening (l : OpeningLine) : l.opening.reference.source = l.source := by
  have hne : l.path.dropLast ≠ [] ↔ 2 ≤ l.path.length := by
    rw [← List.length_pos_iff, List.length_dropLast]
    omega
  show (splitBrace l.path).1 = l.source
  unfold splitBrace source
  simp only [hne]
  split <;> rfl

theorem text_opening (l : OpeningLine) : l.opening.text = l.text := by
  have hpath : l.opening.reference.source ++ (if l.opening.reference.closed then ['}'] else []) = l.path :=
    splitBrace_append l.path
  simp only [Opening.text, Reference.text, text, List.append_assoc]
  rw [← List.append_assoc l.opening.reference.source, hpath]
  rfl

theorem text_append (l : OpeningLine) (r : Text) :
    l.text ++ r = fence ++ (l.language ++ (l.gap ++ (referenceStart ++ (l.path ++ (lineEnd l.carriage ++ r))))) := by
  simp [text]

theorem Proper.isTag (h : l.Proper) : IsTag l.language :=
  ⟨h.language_ne_nil, fun c hc => by simpa using h.language c hc⟩

theorem Proper.parse? (h : l.Proper) (r : Text) :
    Reference.parse? (l.gap ++ (referenceStart ++ (l.path ++ (lineEnd l.carriage ++ r)))) =
      some (l.opening.reference, r) := by
  refine Reference.parse?_eq_some_iff.2 ⟨l.gap, l.path, l.carriage, rfl, fun c hc => ?_, h.path_ne_nil, fun c hc => ?_,
    rfl⟩
  · rcases h.gap c hc with rfl | rfl <;> rfl
  · obtain ⟨hr, hn⟩ := h.path c hc
    simp [isLineEnd, hr, hn]

theorem exists_of_parse? {language s : Text} {a : Reference} (htag : IsTag language)
    (h : Reference.parse? s = some (a, r)) :
    ∃ l : OpeningLine, l.Proper ∧ l.opening = ⟨language, a⟩ ∧ l.text ++ r = fence ++ (language ++ s) := by
  obtain ⟨gap, path, carriage, rfl, hgap, hne, hpath, rfl⟩ := Reference.parse?_eq_some_iff.1 h
  refine ⟨⟨language, gap, path, carriage⟩, ⟨htag.ne_nil, ?_, ?_, hne, ?_⟩, rfl, text_append _ r⟩
  · intro c hc
    simp [htag.clear c hc]
  · intro c hc
    simpa [isGap] using hgap c hc
  · intro c hc
    simpa [isLineEnd] using hpath c hc

/-- **What is read as an opening is the line that opens the text.** -/
theorem parse?_eq_some_iff : Opening.parse? t = some (o, r) ↔ ∃ l : OpeningLine, l.Opens t r ∧ l.opening = o := by
  simp only [Opening.parse?, Option.bind_eq_some_iff, Text.after?_eq_some_iff]
  constructor
  · rintro ⟨x, rfl, h⟩
    obtain ⟨s, rfl, htag, hparse, hlongest⟩ := Opening.longest_of_tagged? h
    obtain ⟨l, hl, hopening, htext⟩ := exists_of_parse? htag hparse
    refine ⟨l, ⟨hl, htext.symm, fun l' r' hl' heq => ?_⟩, hopening⟩
    have hlanguage : l.language = o.language := congrArg Opening.language hopening
    rw [text_append] at heq
    rw [hlanguage]
    exact hlongest _ _ (List.append_cancel_left heq) hl'.isTag (by rw [hl'.parse? r']; rfl)
  · rintro ⟨l, ⟨hl, rfl, hlongest⟩, rfl⟩
    rw [text_append]
    refine ⟨_, rfl, Opening.tagged?_eq_some_iff.2 ⟨_, rfl, hl.isTag, hl.parse? r, fun language s hls htag hsome => ?_⟩⟩
    obtain ⟨⟨a, r'⟩, hparse⟩ := Option.isSome_iff_exists.1 hsome
    obtain ⟨l', hl', hopening, htext⟩ := exists_of_parse? htag hparse
    have hlanguage : l'.language = language := congrArg Opening.language hopening
    rw [← hlanguage]
    exact hlongest l' r' hl' (by rw [text_append, htext, hls])

end OpeningLine

theorem OpeningLine.block_opening (l : OpeningLine) (body : Text) (p : Nat) :
    l.opening.block body p = l.block body p := by
  rw [Opening.block, block, l.text_opening, l.source_opening]
  rfl

/-! ## Where blocks are read -/

/-- **A block is read where one stands.** -/
theorem Block.blockAt_iff {before s : Text} {b : Block} :
    (before ++ s).BlockAt before.byteLength b ↔ ∃ r, at? before.byteLength s = some (b, r) := by
  constructor
  · rintro ⟨before', l, body, r, ht, hbefore, hopens, hfirst, rfl⟩
    obtain ⟨-, rfl⟩ : before' = before ∧ l.text ++ (body ++ fence ++ r) = s := by
      have hcut := Text.cut?_append before s
      rw [ht, ← hbefore, Text.cut?_append] at hcut
      simpa using hcut
    have hread : Opening.parse? (l.text ++ (body ++ fence ++ r)) = some (l.opening, body ++ fence ++ r) :=
      OpeningLine.parse?_eq_some_iff.2 ⟨l, hopens, rfl⟩
    have hbody : Text.splitFirst? fence (body ++ fence ++ r) = some (body, r) :=
      Text.splitFirst?_eq_some_iff.2 ⟨rfl, hfirst⟩
    exact ⟨r, at?_eq_some_iff.2 ⟨_, _, body, hread, hbody, (l.block_opening body _).symm⟩⟩
  · rintro ⟨r, h⟩
    obtain ⟨o, rest, body, ho, hbody, rfl⟩ := at?_eq_some_iff.1 h
    obtain ⟨l, hopens, rfl⟩ := OpeningLine.parse?_eq_some_iff.1 ho
    obtain ⟨rfl, hfirst⟩ := Text.splitFirst?_eq_some_iff.1 hbody
    obtain rfl := hopens.text_eq
    exact ⟨before, l, body, r, rfl, rfl, hopens, hfirst, l.block_opening body _⟩

theorem Text.BlockAt.exists_cut {t : Text} {p : Nat} {b : Block} (h : t.BlockAt p b) :
    ∃ before s, t = before ++ s ∧ before.byteLength = p ∧ s ≠ [] := by
  obtain ⟨before, l, body, after, rfl, hbefore, -⟩ := h
  exact ⟨before, _, rfl, hbefore, by simp [fence]⟩

namespace Text

theorem BlockAt.unique {t : Text} {p : Nat} {b b' : Block} (h : t.BlockAt p b) (h' : t.BlockAt p b') : b = b' := by
  obtain ⟨before, s, rfl, rfl, -⟩ := h.exists_cut
  obtain ⟨r, hr⟩ := Block.blockAt_iff.1 h
  obtain ⟨r', hr'⟩ := Block.blockAt_iff.1 h'
  have := hr.symm.trans hr'
  simp only [Option.some.injEq, Prod.mk.injEq] at this
  exact this.1

theorem Scans.unique {t : Text} {q : Nat} {bs bs' : List Block} (h : t.Scans q bs) (h' : t.Scans q bs') : bs = bs' := by
  induction h generalizing bs' with
  | stop hnone =>
    cases h' with
    | stop => rfl
    | block hle hat => exact absurd hat (hnone _ _ hle)
  | block hle hat hleast _ ih =>
    cases h' with
    | stop hnone => exact absurd hat (hnone _ _ hle)
    | block hle' hat' hleast' hrest' =>
      obtain rfl := Nat.le_antisymm (hleast _ _ hle' hat') (hleast' _ _ hle hat)
      obtain rfl := hat.unique hat'
      rw [ih hrest']

theorem Scans.widen {t : Text} {q q' : Nat} {bs : List Block} (hle : q ≤ q')
    (hnone : ∀ p b, q ≤ p → t.BlockAt p b → q' ≤ p) (h : t.Scans q' bs) : t.Scans q bs := by
  cases h with
  | stop h => exact .stop fun p b hp hb => h p b (hnone p b hp hb) hb
  | block hle' hat hleast hrest =>
    exact .block (Nat.le_trans hle hle') hat (fun p' b' hp' hb' => hleast p' b' (hnone p' b' hp' hb') hb') hrest

theorem BlockAt.le_of_lt {before s : Text} {c : Char} {p : Nat} {b : Block} (h : (before ++ c :: s).BlockAt p b)
    (hlt : before.byteLength < p) : (before ++ [c]).byteLength ≤ p := by
  obtain ⟨before', s', ht, rfl, -⟩ := h.exists_cut
  have hcut : cut? (before ++ c :: s) before'.byteLength = some (before', s') := by rw [ht, cut?_append]
  obtain ⟨m, rfl, hm⟩ := exists_between (cut?_append before (c :: s)) hcut (Nat.le_of_lt hlt)
  cases m with
  | nil => simp at hlt
  | cons d m =>
    obtain ⟨rfl, -⟩ : c = d ∧ s = m ++ s' := by simpa using hm
    simp only [byteLength_append, byteLength_cons, byteLength_nil]
    omega

theorem scans_blocksFrom (before s : Text) :
    (before ++ s).Scans before.byteLength (blocksFrom before.byteLength s) := by
  -- a block takes many characters at once, and the scan goes on with what is left
  induction hn : s.length using Nat.strongRecOn generalizing before s with
  | ind n ih =>
    subst hn
    cases h : Block.at? before.byteLength s with
    | some p =>
      obtain ⟨b, r⟩ := p
      rw [blocksFrom_of_some h]
      have hstop := Block.stop_of_at? h
      have hs := Block.eq_of_at? h
      refine .block (Nat.le_refl _) (Block.blockAt_iff.2 ⟨r, h⟩) (fun p' b' hp' _ => hp') ?_
      have hrest := ih r.length (Block.length_lt_of_at? h) (before ++ (b.opening ++ b.body ++ fence)) r rfl
      rw [hstop, ← byteLength_append]
      rw [List.append_assoc, ← hs] at hrest
      exact hrest
    | none =>
      have hnot : ∀ b, ¬ (before ++ s).BlockAt before.byteLength b := by
        intro b hb
        obtain ⟨r, hr⟩ := Block.blockAt_iff.1 hb
        rw [h] at hr
        cases hr
      cases s with
      | nil =>
        rw [blocksFrom]
        refine .stop fun p b hp hb => ?_
        obtain ⟨before', s', ht, rfl, hne⟩ := hb.exists_cut
        have hlen := congrArg byteLength ht
        have hpos : byteLength s' ≠ 0 := fun h => hne (byteLength_eq_zero.1 h)
        simp only [List.append_nil, byteLength_append] at hlen
        omega
      | cons c s =>
        rw [blocksFrom_of_none h]
        have hrest := ih s.length (by simp) (before ++ [c]) s rfl
        have hnext : (before ++ [c]).byteLength = before.byteLength + c.utf8Size := by simp
        rw [List.append_assoc, List.singleton_append, hnext] at hrest
        refine hrest.widen (Nat.le_add_right _ _) fun p b hp hb => ?_
        rcases Nat.eq_or_lt_of_le hp with rfl | hlt
        · exact absurd hb (hnot b)
        · rw [← hnext]
          exact hb.le_of_lt hlt

/-- **The blocks of a text are those of its grammar.** -/
theorem scans_iff {t : Text} {bs : List Block} : t.Scans 0 bs ↔ t.blocks = bs := by
  have hscans : t.Scans 0 t.blocks := by
    rw [blocks_eq]
    exact scans_blocksFrom [] t
  exact ⟨hscans.unique, fun h => h ▸ hscans⟩

end Text

end SnippetSync
