import SnippetSync.Proofs.Continuations
import SnippetSync.Proofs.Footprint
import SnippetSync.Proofs.Grammar
import SnippetSync.Proofs.Matching

/-!
# The standard form as a pattern

The standard form of blocks is a pattern like others. What this pattern comes to at a place, with all the ways that are
tried in turn, is the block that is read there; so the matches of the pattern are the blocks of the standard form.

* `standardText`, `standardExpr` — the pattern as it is written, and its expression.
* `Continuation.standard` — what the expression comes to, part by part.
* `Continuation.standard_eq` — at each place it comes to the block that is read there.
* `leftmost_standardProgram` — what a search comes to is the first block that a scan comes to.
* `blocks_standardProgram` — the pattern finds what the standard scanner finds.
* `standard_scanner_exact` — **these are the blocks of the grammar.**
-/

namespace SnippetSync

/-- The standard form of blocks as a pattern. -/
def standardText : Text :=
  "(?s)(?P<open>```(?P<language>\\S+)[ \\t]*\\\x7bsource=(?P<source>[^\\r\\n]+?)\\\x7d?\\r?\\n)(?P<body>.*?)```"

def gapSet : CharSet := (CharSet.one ' ').union (CharSet.one '\t')

def lineEndSet : CharSet := (CharSet.one '\r').union (CharSet.one '\n')

def openingExpr : Expr :=
  .seq (.literal fence) <|
  .seq (.group 2 (some "language") (.rep (.chars CharSet.blank.compl) 1 none true)) <|
  .seq (.rep (.chars gapSet) 0 none true) <| .seq (.literal referenceStart) <|
  .seq (.group 3 (some "source") (.rep (.chars lineEndSet.compl) 1 none false)) <|
  .seq (.rep (.literal "\x7d") 0 (some 1) true) <| .seq (.rep (.literal "\r") 0 (some 1) true) (.literal "\n")

def standardExpr : Expr :=
  .seq (.group 1 (some "open") openingExpr)
    (.seq (.group 4 (some "body") (.rep (.chars CharSet.empty.compl) 0 none false)) (.literal fence))

theorem parse?_standardText : Expr.parse? standardText = some standardExpr := by decide +kernel

theorem contains_gapSet (c : Char) : gapSet.contains c = isGap c := by simp [gapSet, isGap]

theorem gapSet_ne_empty : gapSet ≠ CharSet.empty := by
  intro h
  have hspace := contains_gapSet ' '
  rw [h] at hspace
  cases hspace

theorem contains_lineEndSet (c : Char) : lineEndSet.contains c = isLineEnd c := by simp [lineEndSet, isLineEnd]

namespace Continuation

/-! ## The parts of the pattern -/

/-- The body, and the fence behind it. -/
def body : Continuation := .enter .body (.star CharSet.empty.compl false (.leave .body (.literal fence .accept)))

def opened : Continuation := .leave .opening body

def lineEnd : Continuation := .either (.literal "\r" (.literal "\n" opened)) (.literal "\n" opened)

def brace : Continuation := .either (.literal "\x7d" lineEnd) lineEnd

def path : Continuation := .plus lineEndSet.compl false (.leave .source brace)

def reference : Continuation := .star gapSet true (.literal referenceStart (.enter .source path))

def tag : Continuation := .plus CharSet.blank.compl true (.leave .language reference)

/-- The whole pattern. -/
def standard : Continuation := .enter .opening (.literal fence (.enter .language tag))

theorem means_standardExpr : ∃ d, standardExpr.Means d ∧ d .accept = standard :=
  ⟨_, .seq (.part 1 rfl (.seq (.literal fence) (.seq (.part 2 rfl (.plus _ true)) (.seq (.star gapSet_ne_empty true)
    (.seq (.literal referenceStart) (.seq (.part 3 rfl (.plus _ false)) (.seq (.optional (.literal _))
      (.seq (.optional (.literal _)) (.literal _)))))))))
    (.seq (.part 4 rfl (.star (by decide) false)) (.literal fence)), rfl⟩

/-! ## What they come to -/

variable {x : Thread} {offset : Nat} {t r : Text}

theorem body_eq (x : Thread) (offset : Nat) (t : Text) : body x offset t = (Text.splitFirst? fence t).map fun p =>
    ((x.enter .body offset).leave .body (offset + p.1.byteLength)).accept
      (offset + p.1.byteLength + fence.byteLength) := by
  unfold body enter
  generalize x.enter .body offset = x
  induction t generalizing offset with
  | nil => rfl
  | cons c t ih =>
    have hc : CharSet.empty.compl.contains c = true := by simp
    unfold star Text.splitFirst?
    simp only [hc, if_true, Bool.false_eq_true, if_false, ih]
    unfold leave literal
    cases Text.after? fence (c :: t) with
    | some r => simp [accept]
    | none => cases Text.splitFirst? fence t <;> simp [Nat.add_assoc]

/-- Whether an opening is followed by a body is a matter of the text alone. -/
theorem opened_eq_none_iff : opened x offset t = none ↔ ¬ fence <:+: t := by
  rw [opened, leave, body_eq, Option.map_eq_none_iff, Text.splitFirst?_eq_none_iff]

theorem literal_singleton (d : Char) (k : Continuation) (x : Thread) (offset : Nat) (c : Char) (t : Text) :
    literal [d] k x offset (c :: t) = if d = c then k x (offset + d.utf8Size) t else none := by
  unfold literal Text.after?
  split <;> rfl

theorem literal_of_ne {d : Char} {w : Text} (k : Continuation) (x : Thread) (offset : Nat) {c : Char} (t : Text)
    (h : d ≠ c) : literal (d :: w) k x offset (c :: t) = none := by
  rw [literal, Text.after?, if_neg h]
  rfl

theorem lineEnd_eq (x : Thread) (offset : Nat) (t : Text) : lineEnd x offset t =
    (lineEnd? t).bind fun p => opened x (offset + (SnippetSync.lineEnd p.1).byteLength) p.2 := by
  have hfeed : ("\n" : Text) = ['\n'] := rfl
  have hreturn : ("\r" : Text) = ['\r'] := rfl
  unfold lineEnd either
  rw [hfeed, hreturn]
  cases t with
  | nil => rfl
  | cons c t =>
    rw [literal_singleton, literal_singleton]
    by_cases hn : c = '\n'
    · subst hn
      rfl
    · by_cases hr : c = '\r'
      · subst hr
        cases t with
        | nil => rfl
        | cons d t =>
          by_cases hd : d = '\n'
          · subst hd
            simp [literal_singleton, lineEnd?, SnippetSync.lineEnd, Nat.add_assoc]
          · simp [literal_singleton, lineEnd?, Ne.symm hd, hd]
      · simp [lineEnd?, Ne.symm hn, Ne.symm hr, hn, hr]

/-- What a path is without a brace at its end. -/
def stem (w : Text) : Text := if w.getLast? = some '}' then w.dropLast else w

theorem stem_cons {c : Char} {w : Text} (h : w ≠ [] ∨ c ≠ '}') : stem (c :: w) = c :: stem w := by
  cases w with
  | nil =>
    have hc : c ≠ '}' := h.resolve_left (by simp)
    simp [stem, hc]
  | cons d w =>
    have hlast : (c :: d :: w).getLast? = (d :: w).getLast? := by simp
    unfold stem
    rw [hlast]
    split <;> simp

theorem splitBrace_cons (c : Char) (w : Text) : (splitBrace (c :: w)).1 = c :: stem w := by
  cases w with
  | nil => simp [splitBrace, stem]
  | cons d w =>
    have hlast : (c :: d :: w).getLast? = (d :: w).getLast? := by simp
    unfold splitBrace stem
    rw [hlast]
    split <;> simp_all

theorem lineEnd?_cons {c : Char} (hc : isLineEnd c = false) (t : Text) : lineEnd? (c :: t) = none := by
  obtain ⟨hr, hn⟩ : c ≠ '\r' ∧ c ≠ '\n' := by simpa [isLineEnd] using hc
  simp [lineEnd?, hr, hn]

theorem lineEnd_cons (x : Thread) (offset : Nat) {c : Char} (hc : isLineEnd c = false) (t : Text) :
    lineEnd x offset (c :: t) = none := by
  rw [lineEnd_eq, lineEnd?_cons hc]
  rfl

theorem brace_cons (x : Thread) (offset : Nat) (c : Char) (t : Text) : brace x offset (c :: t) =
    (if '}' = c then lineEnd x (offset + '}'.utf8Size) t else none).or (lineEnd x offset (c :: t)) := by
  have hbrace : ("\x7d" : Text) = ['}'] := rfl
  rw [brace, either, hbrace, literal_singleton]

/-- Of the characters before the line end the path takes all but a brace at their end. -/
theorem star_path {w s : Text} (hw : ∀ c ∈ w, isLineEnd c = false) (hs : ∀ c s', s = c :: s' → isLineEnd c = true)
    (x : Thread) (offset : Nat) : star lineEndSet.compl false (.leave .source brace) x offset (w ++ s) =
      (lineEnd? s).bind fun p => opened (x.leave .source (offset + (stem w).byteLength))
        (offset + w.byteLength + (SnippetSync.lineEnd p.1).byteLength) p.2 := by
  induction w generalizing offset with
  | nil =>
    cases s with
    | nil => rfl
    | cons c s =>
      have hc : isLineEnd c = true := hs c s rfl
      have hbrace : '}' ≠ c := by
        rintro rfl
        cases hc
      simp [star, contains_lineEndSet, hc, leave, brace_cons, hbrace, lineEnd_eq, stem]
  | cons c w ih =>
    obtain ⟨hc, hw⟩ := List.forall_mem_cons.1 hw
    have hmem : lineEndSet.compl.contains c = true := by simp [contains_lineEndSet, hc]
    have hlater := ih hw (offset + c.utf8Size)
    have hhere := lineEnd_cons (x.leave .source offset) offset hc (w ++ s)
    rw [List.cons_append, star]
    simp only [hmem, if_true, Bool.false_eq_true, if_false, hlater, leave, brace_cons, hhere, Option.or_none]
    by_cases hlast : w = [] ∧ c = '}'
    · -- the last character is a brace: it is left to what follows, and if that fails it fails with the brace too
      obtain ⟨rfl, rfl⟩ := hlast
      rw [if_pos rfl, List.nil_append, lineEnd_eq]
      cases lineEnd? s with
      | none => rfl
      | some p =>
        cases h : opened (x.leave .source offset) (offset + '}'.utf8Size + (SnippetSync.lineEnd p.1).byteLength)
          p.2 with
        | some m => simp [stem, h]
        | none => simp [stem, h, opened_eq_none_iff.2 (opened_eq_none_iff.1 h)]
    · have hstem : stem (c :: w) = c :: stem w := stem_cons (Decidable.not_and_iff_or_not.1 hlast)
      have hnone : (if '}' = c then lineEnd (x.leave .source offset) (offset + '}'.utf8Size) (w ++ s)
          else none) = none := by
        split
        · rename_i hbrace
          cases w with
          | nil => exact absurd ⟨rfl, hbrace.symm⟩ hlast
          | cons d w => exact lineEnd_cons _ _ (hw d List.mem_cons_self) _
        · rfl
      rw [hnone, hstem, Option.none_or, Text.byteLength_cons, Text.byteLength_cons]
      simp only [Nat.add_assoc]

theorem path_eq (x : Thread) (offset : Nat) (t : Text) : path x offset t =
    if t.takeWhile (!isLineEnd ·) = [] then none
    else (lineEnd? (t.dropWhile (!isLineEnd ·))).bind fun p =>
      opened (x.leave .source (offset + (splitBrace (t.takeWhile (!isLineEnd ·))).1.byteLength))
        (offset + Text.byteLength (t.takeWhile (!isLineEnd ·)) + (SnippetSync.lineEnd p.1).byteLength) p.2 := by
  cases t with
  | nil => rfl
  | cons c t =>
    unfold path plus chars
    dsimp only
    rw [CharSet.contains_compl, contains_lineEndSet]
    cases hc : isLineEnd c with
    | true => simp [hc]
    | false =>
      have hw : ∀ d ∈ t.takeWhile (!isLineEnd ·), isLineEnd d = false := by
        intro d hd
        simpa using List.all_eq_true.1 List.all_takeWhile d hd
      have hs : ∀ d s, t.dropWhile (!isLineEnd ·) = d :: s → isLineEnd d = true := by
        intro d s hd
        have hhead := List.head?_dropWhile_not (!isLineEnd ·) t
        rw [hd] at hhead
        simpa using hhead
      have hstar := star_path hw hs x (offset + c.utf8Size)
      rw [List.takeWhile_append_dropWhile] at hstar
      simp [hc, hstar, splitBrace_cons, Nat.add_assoc]

/-- No character of the gap begins a reference, so the gap is taken whole. -/
theorem reference_gap (x : Thread) (offset : Nat) (t : Text) : reference x offset t =
    literal referenceStart (.enter .source path) x (offset + Text.byteLength (t.takeWhile isGap))
      (t.dropWhile isGap) := by
  unfold reference
  induction t generalizing offset with
  | nil => rfl
  | cons c t ih =>
    unfold star
    simp only [contains_gapSet, if_true, ih]
    cases hc : isGap c with
    | false => simp [hc]
    | true =>
      have hbrace : '{' ≠ c := by
        rintro rfl
        cases hc
      have hstart : referenceStart = '{' :: "source=".toList := rfl
      have hhere : literal referenceStart (.enter .source path) x offset (c :: t) = none := by
        rw [hstart]
        exact literal_of_ne _ x offset t hbrace
      simp [hc, hhere, Nat.add_assoc]

end Continuation

/-- A thread that comes to the end of an opening which begins with this reference at an offset. -/
def Thread.referred (x : Thread) (a : Reference) (offset : Nat) : Thread :=
  let start := offset + (a.gap ++ referenceStart).byteLength
  (x.enter .source start).leave .source (start + a.source.byteLength)

namespace Continuation

theorem reference_eq (x : Thread) (offset : Nat) (t : Text) : reference x offset t =
    (Reference.parse? t).bind fun p => opened (x.referred p.1 offset) (offset + p.1.text.byteLength) p.2 := by
  rw [reference_gap, literal, Reference.parse?]
  simp only [Option.bind_eq_bind]
  cases hx : Text.after? referenceStart (t.dropWhile isGap) with
  | none => rfl
  | some s =>
    simp only [Option.bind_some]
    rw [enter, path_eq]
    by_cases hnil : s.takeWhile (!isLineEnd ·) = []
    · rw [if_pos hnil, guard, if_neg (by simpa using hnil)]
      rfl
    · rw [if_neg hnil, guard, if_pos hnil]
      simp only [Option.pure_def, Option.bind_some]
      cases lineEnd? (s.dropWhile (!isLineEnd ·)) with
      | none => rfl
      | some p =>
        have hpath := congrArg Text.byteLength (splitBrace_append (s.takeWhile (!isLineEnd ·)))
        rw [Text.byteLength_append] at hpath
        simp only [Option.bind_some, Thread.referred, Reference.text, Text.byteLength_append, ← hpath, Nat.add_assoc]

/-- A tag that may go on is one that goes on, or else one that ends here. -/
theorem star_eq_either (s : CharSet) (k : Continuation) (x : Thread) (offset : Nat) (t : Text) :
    star s true k x offset t = (plus s true k x offset t).or (k x offset t) := by
  cases t <;> rfl

theorem tag_cons (x : Thread) (offset : Nat) (c : Char) (t : Text) : tag x offset (c :: t) =
    if Text.isBlank c then none
    else (tag x (offset + c.utf8Size) t).or
      (reference (x.leave .language (offset + c.utf8Size)) (offset + c.utf8Size) t) := by
  have hmore := star_eq_either CharSet.blank.compl (.leave .language reference) x (offset + c.utf8Size) t
  unfold tag
  rw [plus, chars, hmore, CharSet.contains_compl, CharSet.contains_blank]
  cases Text.isBlank c <;> rfl

end Continuation

/-- What follows a reference and what follows a tag with another reference is what follows the line. -/
theorem Opening.rest_of_tagged? {t r r' : Text} {a : Reference} {o : Opening} (h : Reference.parse? t = some (a, r))
    (h' : tagged? t = some (o, r')) : r = r' := by
  have hnl : '\n' ∈ t := by
    have hend : '\n' ∈ lineEnd a.carriage := by cases a.carriage <;> decide
    rw [Reference.eq_of_parse? h]
    simp [Reference.text, hend]
  obtain ⟨l, m, rfl, hl⟩ := List.eq_append_cons_of_mem hnl
  rw [Reference.parse?_line hl, Option.map_eq_some_iff] at h
  rw [tagged?_line hl, Option.map_eq_some_iff] at h'
  obtain ⟨p, -, hp⟩ := h
  obtain ⟨p', -, hp'⟩ := h'
  have hr : m = r := congrArg Prod.snd hp
  have hr' : m = r' := congrArg Prod.snd hp'
  rw [← hr, hr']

def Thread.tagged (x : Thread) (o : Opening) (offset : Nat) : Thread :=
  (x.leave .language (offset + o.language.byteLength)).referred o.reference (offset + o.language.byteLength)

namespace Continuation

/-- Of the tags that a reference follows the longest is tried first; where a body is missing it is so for all. -/
theorem tag_eq (x : Thread) (offset : Nat) (t : Text) : tag x offset t = (Opening.tagged? t).bind fun p =>
    opened (x.tagged p.1 offset) (offset + (p.1.language ++ p.1.reference.text).byteLength) p.2 := by
  induction t generalizing offset with
  | nil => rfl
  | cons c t ih =>
    rw [tag_cons, Opening.tagged?]
    by_cases hc : Text.isBlank c = true
    · simp [hc]
    · rw [if_neg hc, if_neg hc, ih, reference_eq]
      cases htagged : Opening.tagged? t with
      | none =>
        cases hparse : Reference.parse? t with
        | none => rfl
        | some p => simp [Thread.tagged, Nat.add_assoc]
      | some p =>
        have hthread : x.tagged ⟨c :: p.1.language, p.1.reference⟩ offset = x.tagged p.1 (offset + c.utf8Size) := by
          simp [Thread.tagged, Nat.add_assoc]
        have hoffset : offset + Text.byteLength (c :: p.1.language ++ p.1.reference.text) =
            offset + c.utf8Size + (p.1.language ++ p.1.reference.text).byteLength := by
          simp [Nat.add_assoc]
        simp only [Option.bind_some, hthread, hoffset]
        generalize hfirst : opened (x.tagged p.1 (offset + c.utf8Size)) _ p.2 = first
        cases first with
        | some m => rfl
        | none =>
          -- a shorter tag ends in the same line, and no body follows this one
          rw [Option.none_or]
          cases hparse : Reference.parse? t with
          | none => rfl
          | some q =>
            have hrest : q.2 = p.2 := Opening.rest_of_tagged? hparse htagged
            rw [Option.bind_some, opened_eq_none_iff, hrest]
            exact opened_eq_none_iff.1 hfirst

end Continuation

/-- What is matched where a block with this opening and this body begins at an offset. -/
def Opening.found (o : Opening) (body : Text) (offset : Nat) : Match :=
  let b := o.block body offset
  let bodyStart := offset + o.text.byteLength
  { span := b.span
    fields :=
      { opening := some ⟨offset, bodyStart⟩
        language := some ⟨offset + fence.byteLength, offset + fence.byteLength + o.language.byteLength⟩
        source := some b.sourceSpan
        body := some ⟨bodyStart, bodyStart + body.byteLength⟩ } }

namespace Continuation

/-- **The pattern comes to the block that is read.** -/
theorem standard_eq (offset : Nat) (t : Text) : standard (Thread.fresh offset) offset t =
    (Opening.parse? t).bind fun p => (Text.splitFirst? fence p.2).map fun q => p.1.found q.1 offset := by
  unfold standard enter literal Opening.parse?
  cases Text.after? fence t with
  | none => rfl
  | some s =>
    simp only [Option.bind_some, tag_eq]
    cases Opening.tagged? s with
    | none => rfl
    | some p =>
      simp only [Option.bind_some, opened, leave, body_eq]
      congr 1
      funext q
      simp [Opening.found, Thread.accept, Thread.leave, Thread.enter, Thread.tagged, Thread.referred, Thread.fresh,
        Opening.block, Fields.set, Fields.get, Fields.const, Opening.text, Reference.text]
      omega

end Continuation

/-! ## Searches -/

def standardProgram : Program := standardExpr.program

/-- Jumps before all else, and then what stands first; nothing goes on from where a character is read. -/
def Program.rank (p : Program) (a : Nat) : Nat :=
  match p[a]? with
  | none | some .accept | some (.read _) => 0
  | some (.jump _) => p.size + 2
  | _ => p.size + 1 - a

theorem ranked_standardProgram : standardProgram.Ranked standardProgram.rank := by
  intro a b hb
  have hsize : standardProgram.size = 38 := by decide +kernel
  have hranked : ∀ a < 38, ∀ b ∈ standardProgram.targets a, standardProgram.rank b < standardProgram.rank a := by
    decide +kernel
  by_cases ha : a < 38
  · exact hranked a ha b hb
  · have hnone : standardProgram[a]? = none := Array.getElem?_eq_none (by omega)
    rw [Program.targets, hnone] at hb
    exact absurd hb List.not_mem_nil

theorem leads_standardProgram (before : Option Char) (offset : Nat) (t : Text) :
    standardProgram.Leads ⟨before, offset, t⟩ (Thread.fresh offset)
      ((Opening.parse? t).bind fun p => (Text.splitFirst? fence p.2).map fun q => p.1.found q.1 offset) := by
  obtain ⟨d, hmeans, hd⟩ := Continuation.means_standardExpr
  rw [← Continuation.standard_eq, ← hd]
  exact Program.leads_of_means hmeans before offset t

theorem leads_of_no_block {before : Option Char} {offset : Nat} {t : Text} (h : Block.at? offset t = none) :
    standardProgram.Leads ⟨before, offset, t⟩ (Thread.fresh offset) none := by
  have hleads := leads_standardProgram before offset t
  cases hread : Opening.parse? t with
  | none =>
    rw [hread] at hleads
    exact hleads
  | some p =>
    have hbody : Text.splitFirst? fence p.2 = none :=
      Text.splitFirst?_eq_none_iff.2 (Block.at?_eq_none_iff.1 h p.1 p.2 hread)
    rw [hread, Option.bind_some, hbody] at hleads
    exact hleads

theorem leftmost_standardProgram (before : Option Char) (u t : Text) :
    (Text.blocksFrom u.byteLength t = [] ∧ standardProgram.Leftmost ⟨before, u.byteLength, t⟩ none) ∨
    ∃ (lead : Text) (o : Opening) (body r : Text), t = lead ++ (o.text ++ body ++ fence ++ r) ∧
      standardProgram.Leftmost ⟨before, u.byteLength, t⟩ (some (o.found body (u ++ lead).byteLength)) ∧
      Text.blocksFrom u.byteLength t = o.block body (u ++ lead).byteLength ::
        Text.blocksFrom (u ++ lead ++ (o.text ++ body ++ fence)).byteLength r := by
  induction t generalizing before u with
  | nil => exact .inl ⟨by rw [Text.blocksFrom], .nowhere (leads_standardProgram before u.byteLength []) rfl⟩
  | cons c t ih =>
    cases h : Block.at? u.byteLength (c :: t) with
    | some p =>
      obtain ⟨b, r⟩ := p
      obtain ⟨o, rest, body, ho, hbody, rfl⟩ := Block.at?_eq_some_iff.1 h
      have hleads := leads_standardProgram before u.byteLength (c :: t)
      rw [ho, Option.bind_some, hbody] at hleads
      refine .inr ⟨[], o, body, r, Block.eq_of_at? h, ?_, ?_⟩
      · rw [List.append_nil]
        exact .here hleads
      · rw [Text.blocksFrom_of_some h, Block.stop_of_at? h, List.append_nil, ← Text.byteLength_append]
        rfl
    | none =>
      have hstep : ∀ {m}, standardProgram.Leftmost ⟨some c, (u ++ [c]).byteLength, t⟩ m →
          standardProgram.Leftmost ⟨before, u.byteLength, c :: t⟩ m := by
        intro m hm
        rw [Text.byteLength_append, Text.byteLength_cons, Text.byteLength_nil] at hm
        exact .later (leads_of_no_block h) rfl hm
      have hblocks : Text.blocksFrom u.byteLength (c :: t) = Text.blocksFrom (u ++ [c]).byteLength t := by
        rw [Text.blocksFrom_of_none h, Text.byteLength_append, Text.byteLength_cons, Text.byteLength_nil, Nat.add_zero]
      rw [hblocks]
      obtain ⟨hnil, hnone⟩ | ⟨lead, o, body, r, rfl, hm, hcons⟩ := ih (some c) (u ++ [c])
      · exact .inl ⟨hnil, hstep hnone⟩
      · have hlead : u ++ [c] ++ lead = u ++ c :: lead := by simp
        rw [hlead] at hm hcons
        exact .inr ⟨c :: lead, o, body, r, rfl, hstep hm, hcons⟩

theorem Opening.ofMatch?_found (o : Opening) (body u r : Text) :
    Block.ofMatch? (u ++ (o.text ++ body ++ fence ++ r)) (o.found body u.byteLength) =
      some (o.block body u.byteLength) := by
  -- each part is what stands between two offsets, as the text is put together of the parts
  have hpart : ∀ (before m after : Text) (s : Span), u ++ (o.text ++ body ++ fence ++ r) = before ++ m ++ after →
      s = ⟨before.byteLength, before.byteLength + m.byteLength⟩ →
      (u ++ (o.text ++ body ++ fence ++ r)).slice? s = some m := by
    rintro before m after s htext rfl
    exact Text.slice?_eq_some_iff.2 ⟨before, after, htext, rfl, Text.byteLength_append before m⟩
  have hopening := hpart u o.text (body ++ fence ++ r) ⟨u.byteLength, u.byteLength + o.text.byteLength⟩ (by simp) rfl
  have hlanguage := hpart (u ++ fence) o.language (o.reference.text ++ body ++ fence ++ r)
    ⟨u.byteLength + fence.byteLength, u.byteLength + fence.byteLength + o.language.byteLength⟩
    (by simp [Opening.text]) (by simp)
  have hsource := hpart (u ++ (fence ++ o.language ++ o.reference.gap ++ referenceStart)) o.reference.source
    ((if o.reference.closed then ['}'] else []) ++ lineEnd o.reference.carriage ++ body ++ fence ++ r)
    (o.block body u.byteLength).sourceSpan (by simp [Opening.text, Reference.text]) (by simp [Opening.block])
  have hbody := hpart (u ++ o.text) body (fence ++ r)
    ⟨u.byteLength + o.text.byteLength, u.byteLength + o.text.byteLength + body.byteLength⟩ (by simp) (by simp)
  simp only [Block.ofMatch?, Opening.found, Option.bind_eq_bind, Option.bind_some, Option.pure_def, hopening, hlanguage,
    hsource, hbody]
  rfl

theorem Cursor.exists_seek (before : Option Char) (offset : Nat) (w r : Text) :
    ∃ before', Cursor.seek (offset + w.byteLength) ⟨before, offset, w ++ r⟩ = ⟨before', offset + w.byteLength, r⟩ := by
  unfold seek
  dsimp only
  induction w generalizing before offset with
  | nil =>
    refine ⟨before, ?_⟩
    cases r with
    | nil => rfl
    | cons c r => rw [List.nil_append, seek.go, if_pos (by simp)]; rfl
  | cons c w ih =>
    obtain ⟨before', h⟩ := ih (some c) (offset + c.utf8Size)
    have hpos := c.utf8Size_pos
    refine ⟨before', ?_⟩
    rw [List.cons_append, seek.go, if_neg (by simp; omega), Text.byteLength_cons, ← Nat.add_assoc, h]

theorem find?_standardProgram {T : Text} {o : Cursor} (ho : o.IsIn T) :
    (standardProgram.find? o = none ∧ Text.blocksFrom o.offset o.rest = []) ∨
    ∃ (w r : Text) (m : Match) (b : Block), o.rest = w ++ r ∧ w ≠ [] ∧ standardProgram.find? o = some m ∧
      m.span.stop = o.offset + w.byteLength ∧ Block.ofMatch? T m = some b ∧
      Text.blocksFrom o.offset o.rest = b :: Text.blocksFrom (o.offset + w.byteLength) r := by
  obtain ⟨before, offset, t⟩ := o
  obtain ⟨u, rfl, rfl⟩ := ho
  dsimp only
  obtain ⟨hnil, hnone⟩ | ⟨lead, o, body, r, rfl, hm, hcons⟩ := leftmost_standardProgram before u t
  · exact .inl ⟨Program.find?_eq_of_leftmost ranked_standardProgram hnone, hnil⟩
  · have hstop : (u ++ lead ++ (o.text ++ body ++ fence)).byteLength =
        u.byteLength + (lead ++ (o.text ++ body ++ fence)).byteLength := by
      rw [List.append_assoc, Text.byteLength_append]
    have hfind := Program.find?_eq_of_leftmost ranked_standardProgram hm
    refine .inr ⟨lead ++ (o.text ++ body ++ fence), r, _, o.block body (u ++ lead).byteLength, by simp, by simp [fence],
      hfind, ?_, ?_, ?_⟩
    · rw [← hstop, Text.byteLength_append (u ++ lead)]
      rfl
    · rw [← List.append_assoc]
      exact o.ofMatch?_found body (u ++ lead) r
    · rw [← hstop]
      exact hcons

theorem filterMap_findFrom {T : Text} {afterMatch : Bool} {o : Cursor} (ho : o.IsIn T) :
    (standardProgram.findFrom afterMatch o).filterMap (Block.ofMatch? T) = Text.blocksFrom o.offset o.rest := by
  -- a match has characters in it
  have hread : ∀ {o : Cursor} {m : Match}, o.IsIn T → standardProgram.find? o = some m →
      o.rest ≠ [] ∧ o.offset < m.span.stop := by
    intro o m ho hm
    obtain ⟨hnone, -⟩ | ⟨w, r, m', b, hw, hne, hsome, hspan, -⟩ := find?_standardProgram ho
    · rw [hm] at hnone
      cases hnone
    · obtain rfl : m = m' := Option.some.inj (hm.symm.trans hsome)
      have hpos : Text.byteLength w ≠ 0 := fun h => hne (Text.byteLength_eq_zero.1 h)
      exact ⟨by simp [hw, hne], by omega⟩
  fun_induction Program.findFrom standardProgram afterMatch o with
  | case1 _ o hnone =>
    obtain ⟨-, hnil⟩ | ⟨_, _, m, _, -, -, hsome, -⟩ := find?_standardProgram ho
    · exact hnil.symm
    · rw [hnone] at hsome
      cases hsome
  | case2 o m hm hrest | case3 _ o m hm hrest => exact absurd hrest (hread ho hm).1
  | case4 o m hm c rest hrest _ hstop => exact absurd hstop (Nat.not_le.2 (hread ho hm).2)
  | case5 _ o m hm c rest hrest _ hstop => exact absurd hstop (Nat.not_le.2 (hread ho hm).2)
  | case6 _ o m hm c rest hrest _ hstop _ ih =>
    obtain ⟨hnone, -⟩ | ⟨w, r, m', b, hw, hne, hsome, hspan, hblock, hcons⟩ := find?_standardProgram ho
    · rw [hm] at hnone
      cases hnone
    · obtain rfl : m = m' := Option.some.inj (hm.symm.trans hsome)
      obtain ⟨hnil, -⟩ | ⟨w', rfl, rfl⟩ := List.cons_eq_append_iff.1 (hrest.symm.trans hw)
      · exact absurd hnil hne
      · obtain ⟨before, hseek⟩ := Cursor.exists_seek (some c) (o.offset + c.utf8Size) w' r
        have hnext : (o.step c (w' ++ r)).seek m.span.stop =
            ⟨before, o.offset + Text.byteLength (c :: w'), r⟩ := by
          rw [hspan, Text.byteLength_cons, ← Nat.add_assoc]
          exact hseek
        have hlater := ih ((ho.step hrest).seek _)
        rw [hnext] at hlater
        rw [List.filterMap_cons_some hblock, hnext, hlater, hcons]

/-- **The pattern finds what the standard scanner finds.** -/
theorem blocks_standardProgram (t : Text) : (Scanner.pattern ⟨standardProgram⟩).blocks t = t.blocks := by
  rw [Text.blocks_eq]
  exact filterMap_findFrom (Cursor.isIn_ofText t)

/-! ## The pattern as it is written -/

/-- The pattern is a block pattern: it is small enough and has the parts of a block. -/
theorem ofText_standardText : Pattern.ofText standardText = .ok ⟨standardProgram⟩ := by
  have hfits : standardExpr.fits = true := Expr.fits_of_byteBound (n := 6868) (by decide +kernel) (by decide)
  have hnames : Field.all.find? (!standardExpr.names.contains ·.name) = none := by decide
  have hexpr : Expr.ofText standardText = .ok standardExpr := by
    simp [Expr.ofText, parse?_standardText, hfits]
  rw [Pattern.ofText, hexpr]
  simp only [hnames]
  rfl

/-- **The standard scanner finds the blocks of the grammar and no others**, and so does a scanner whose pattern is the
standard form as it is written. -/
theorem standard_scanner_exact :
    (∀ (t : Text) (bs : List Block), Scanner.standard.blocks t = bs ↔ t.Scans 0 bs) ∧
    ∃ p, Pattern.ofText standardText = .ok p ∧ ∀ t, (Scanner.pattern p).blocks t = Scanner.standard.blocks t :=
  ⟨fun _ _ => Text.scans_iff.symm, ⟨standardProgram⟩, ofText_standardText, blocks_standardProgram⟩

end SnippetSync
