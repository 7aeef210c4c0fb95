import SnippetSync.Proofs.Footprint
import SnippetSync.Proofs.Located
import SnippetSync.Proofs.Rewriting
import SnippetSync.Proofs.Ways
import SnippetSync.Proofs.WrittenForm

/-!
# Blocks that are current and blocks that stay as they are

A block is current if its body is what its source holds. But more than the body is written when contents are inlined:
the opening and a fence are written around them, whatever stood there. So a current block stays as it is just if it is
whole, that is, made up of its opening, its body and a fence. Blocks of the standard form are whole. The matches of a
pattern need not be: parts may overlap, stand in another order, leave something out, or another fence may close them.

* `Block.Unaltered` — to inline contents leaves the text as it is, `Block.Whole` — the block is whole.
* `Block.current_iff_unaltered` — **being current means to stay as it is** just for whole blocks.
* `Text.substitute?_filter` — edits that replace something by itself can be left out.
* `Expr.framed` — patterns that are an opening and a body with something behind them.
* `Expr.slice?_of_framed` — what the blocks of such a pattern are made of.
* `current_unaltered_iff_whole` — **when current blocks stay as they are**, block by block, in an inlining, and by the
  pattern that finds them.
-/

namespace SnippetSync

/-! ## Single blocks -/

/-- To put these contents in place of the body leaves the text as it is. -/
def Block.Unaltered (t : Text) (b : Block) (contents : Text) : Prop :=
  t.substitute? 0 [⟨b.span, b.render contents⟩] = some t

/-- The block is made up of its opening, its body and a fence, and of nothing else. -/
def Block.Whole (t : Text) (b : Block) : Prop := t.slice? b.span = some (b.opening ++ b.body ++ fence)

namespace Block

variable {t contents : Text} {b : Block}

instance (t : Text) (b : Block) (contents : Text) : Decidable (b.Unaltered t contents) :=
  inferInstanceAs (Decidable (_ = _))

instance (t : Text) (b : Block) : Decidable (b.Whole t) := inferInstanceAs (Decidable (_ = _))

theorem unaltered_iff : b.Unaltered t contents ↔ t.slice? b.span = some (b.render contents) := by
  rw [Unaltered, Text.substitute?_cons_eq_some_iff, Text.slice?_eq_some_iff]
  constructor
  · rintro ⟨kept, old, r, s, ht, hstart, hstop, hs, htext⟩
    obtain rfl : r = s := Option.some.inj hs
    have hsame : old = b.render contents := by
      rw [ht] at htext
      exact List.append_cancel_left (List.append_cancel_right htext)
    subst hsame
    have hkept : kept.byteLength = b.span.start := by simpa using hstart.symm
    refine ⟨kept, r, ht, hkept, ?_⟩
    rw [Text.byteLength_append, hkept]
    exact hstop.symm
  · rintro ⟨kept, r, ht, hstart, hstop⟩
    refine ⟨kept, b.render contents, r, r, ht, by simpa using hstart.symm, ?_, rfl, ht⟩
    rw [Text.byteLength_append, hstart] at hstop
    exact hstop.symm

theorem render_eq (b : Block) (contents : Text) : b.render contents = b.opening ++ (contents ++ ['\n']) ++ fence := by
  simp [render]

theorem unaltered_iff_whole (h : b.isCurrent contents) : b.Unaltered t contents ↔ b.Whole t := by
  rw [unaltered_iff, render_eq, ← isCurrent_iff.1 h]
  rfl

theorem Whole.isCurrent (h : b.Whole t) (hsame : b.Unaltered t contents) : b.isCurrent contents := by
  have hrender : b.opening ++ b.body ++ fence = b.render contents :=
    Option.some.inj (h.symm.trans (unaltered_iff.1 hsame))
  rw [render_eq] at hrender
  exact isCurrent_iff.2 (List.append_cancel_left (List.append_cancel_right hrender))

/-- **Being current means to stay as it is** just for whole blocks, and for those that can neither be current nor stay
as they are. -/
theorem current_iff_unaltered : (∀ contents, b.isCurrent contents ↔ b.Unaltered t contents) ↔
    b.Whole t ∨ ∀ contents, ¬ b.isCurrent contents ∧ ¬ b.Unaltered t contents := by
  constructor
  · intro h
    by_cases hcurrent : ∃ contents, b.isCurrent contents
    · obtain ⟨contents, hcontents⟩ := hcurrent
      exact .inl ((unaltered_iff_whole hcontents).1 ((h contents).1 hcontents))
    · refine .inr fun contents => ?_
      have hno : ¬ b.isCurrent contents := fun hcontents => hcurrent ⟨contents, hcontents⟩
      exact ⟨hno, fun hsame => hno ((h contents).2 hsame)⟩
  · rintro (hwhole | hno) contents
    · exact ⟨fun h => (unaltered_iff_whole h).2 hwhole, hwhole.isCurrent⟩
    · exact ⟨fun h => absurd h (hno contents).1, fun h => absurd h (hno contents).2⟩

end Block

/-! ## Inlining -/

namespace Text

theorem substitute?_append_left {offset : Nat} {u t s : Text} {es : List Edit}
    (h : t.substitute? (offset + u.byteLength) es = some s) : (u ++ t).substitute? offset es = some (u ++ s) := by
  cases es with
  | nil =>
    obtain rfl : t = s := Option.some.inj h
    rfl
  | cons e es =>
    obtain ⟨kept, old, r, s, rfl, hstart, hstop, hs, rfl⟩ := substitute?_cons_eq_some_iff.1 h
    refine substitute?_cons_eq_some_iff.2 ⟨u ++ kept, old, r, s, by simp, ?_, hstop, hs, by simp⟩
    rw [hstart, byteLength_append, Nat.add_assoc]

/-- **Edits that replace something by itself can be left out.** -/
theorem substitute?_filter {α : Type} {edit : α → Edit} {p : α → Bool} {xs : List α} (before : Text) {r s : Text}
    (h : r.substitute? before.byteLength (xs.map edit) = some s)
    (hsame : ∀ x ∈ xs, p x = false → (before ++ r).slice? (edit x).span = some (edit x).replacement) :
    r.substitute? before.byteLength ((xs.filter p).map edit) = some s := by
  induction xs generalizing before r s with
  | nil => exact h
  | cons x xs ih =>
    obtain ⟨kept, old, r, s, rfl, hstart, hstop, hs, rfl⟩ := substitute?_cons_eq_some_iff.1 h
    obtain ⟨hx, hxs⟩ := List.forall_mem_cons.1 hsame
    have hbehind : (edit x).span.stop = (before ++ (kept ++ old)).byteLength := by
      simp only [byteLength_append]
      omega
    have hlater : r.substitute? (edit x).span.stop ((xs.filter p).map edit) = some s := by
      rw [hbehind] at hs ⊢
      exact ih _ hs (by simpa using hxs)
    cases hp : p x with
    | true =>
      rw [List.filter_cons_of_pos hp]
      exact substitute?_cons_eq_some_iff.2 ⟨kept, old, r, s, rfl, hstart, hstop, hlater, rfl⟩
    | false =>
      rw [List.filter_cons_of_neg (by simp [hp])]
      have hold : (before ++ (kept ++ old ++ r)).slice? (edit x).span = some old := by
        refine slice?_eq_some_iff.2 ⟨before ++ kept, r, by simp, ?_, ?_⟩
        · rw [hstart, byteLength_append]
        · rw [hbehind, List.append_assoc]
      obtain rfl : old = (edit x).replacement := Option.some.inj (hold.symm.trans (hx hp))
      refine substitute?_append_left ?_
      rw [hbehind, byteLength_append] at hlater
      exact hlater

end Text

/-- **An inlining in which all blocks that are not changed are whole** makes the edits of the stale blocks alone. -/
theorem Document.substitute?_stale {d : Document} {read : Reader} {base : Path} {sink : Sink} {u : Update}
    (h : (d.inline read base sink).result = .ok u)
    (hwhole : ∀ o ∈ u.outcomes, o.changed = false → o.block.Whole d.text) :
    d.text.substitute? 0 (u.stale.map (·.edit (Reader.contents read base))) = some u.text := by
  obtain ⟨floor, hmade⟩ := made_of_inline h
  obtain ⟨-, -, -, -, houtcomes⟩ := inline_eq_ok h
  have hedits : d.blocks.map (·.edit (Reader.contents read base)) =
      u.outcomes.map fun o => o.block.edit (Reader.contents read base) := by
    rw [houtcomes, List.map_map]
    rfl
  have hall : d.text.substitute? 0 (u.outcomes.map fun o => o.block.edit (Reader.contents read base)) = some u.text :=
    hedits ▸ hmade.text
  rw [Update.stale, List.map_map]
  refine Text.substitute?_filter [] hall fun o ho hchanged => ?_
  have hcurrent : o.block.isCurrent (Reader.contents read base o.block.source) := by
    obtain ⟨b, -, rfl⟩ := List.mem_map.1 (houtcomes ▸ ho)
    simpa [Block.outcome] using hchanged
  exact Block.unaltered_iff.1 ((Block.unaltered_iff_whole hcurrent).2 (hwhole o ho hchanged))

/-! ## Patterns -/

/-- An opening and a body, one behind the other, and something behind them. -/
def Expr.framed (i j : Nat) (a b c : Expr) : Expr :=
  .seq (.group i (some Field.opening.name) a) (.seq (.group j (some Field.body.name) b) c)

theorem Expr.notMem_names_of_framed {i j : Nat} {a b c : Expr} (h : (framed i j a b c).names.Nodup) :
    (Field.opening.name ∉ a.names ∧ Field.opening.name ∉ (group j (some Field.body.name) b).names ∧
      Field.opening.name ∉ c.names) ∧ Field.body.name ∉ b.names ∧ Field.body.name ∉ c.names := by
  obtain ⟨hopening, hrest⟩ : Field.opening.name ∉ a.names ++ ((group j (some Field.body.name) b).names ++ c.names) ∧
      (a.names ++ (Field.body.name :: (b.names ++ c.names))).Nodup := List.nodup_cons.1 h
  have hbody : Field.body.name ∉ b.names ++ c.names := (List.nodup_cons.1 (List.nodup_append.1 hrest).2.1).1
  simp only [List.mem_append, not_or] at hopening hbody
  exact ⟨hopening, hbody⟩

namespace Program

variable {i j : Nat} {a b c : Expr} {w t : Text} {o : Cursor} {m : Match}

/-- A way through such a pattern notes the opening from where it starts, the body behind it, and then reads the word
that is the only one to match the rest. -/
theorem Way.framed (h : Way (Expr.framed i j a b c).program o (Thread.fresh o.offset) m) (ho : o.IsIn t)
    (hnames : (Expr.framed i j a b c).names.Nodup) (hw : c.word? = some w) :
    ∃ k, ∃ o' : Cursor, o'.IsIn t ∧ m.fields.opening = some ⟨m.span.start, k⟩ ∧ m.fields.body = some ⟨k, o'.offset⟩ ∧
      m.span.stop = o'.offset + w.byteLength ∧ w <+: o'.rest := by
  obtain ⟨⟨hopena, hopenj, hopenc⟩, hbodyb, hbodyc⟩ := Expr.notMem_names_of_framed hnames
  obtain ⟨hcode, haccept⟩ := placed_program (.framed i j a b c)
  obtain ⟨hopen, hbehind⟩ := placed_seq hcode
  obtain ⟨hinside, hclose⟩ := placed_seq hbehind
  -- the way leads through the opening, the body and the rest, and each of them leaves alone what was noted before
  obtain ⟨o₁, x₁, ho₁, hx₁, hagrees₁, hopening, hway₁⟩ := h.part (f := .opening) rfl hopen hopena ho rfl
  obtain ⟨o₂, x₂, ho₂, hx₂, hagrees₂, hbody, hway₂⟩ := hway₁.part (f := .body) rfl hinside hbodyb ho₁ hx₁
  obtain ⟨o₃, x₃, -, hx₃, hagrees₃, hword, hoffset, hway₃⟩ := hway₂.word hw hclose ho₂ hx₂
  have hend : x₃.address = (Expr.framed i j a b c).size := by
    rw [hx₃, Nat.zero_add, Nat.add_assoc]
    rfl
  obtain rfl := hway₃.eq_accept (hend ▸ haccept)
  have hstart : x₃.start = o.offset := (hagrees₃.start.trans hagrees₂.start).trans hagrees₁.start
  refine ⟨o₁.offset, o₂, ho₂, ?_, ?_, hoffset, ⟨o₃.rest, hword.symm⟩⟩
  · have hfield : x₃.fields.get .opening = some ⟨o.offset, o₁.offset⟩ :=
      ((hagrees₃.fields .opening hopenc).trans (hagrees₂.fields .opening hopenj)).trans hopening
    rw [← hstart] at hfield
    exact hfield
  · exact (hagrees₃.fields .body hbodyc).trans hbody

end Program

theorem Text.slice?_append {t u v : Text} {a b c : Nat} (h : t.slice? ⟨a, b⟩ = some u)
    (h' : t.slice? ⟨b, c⟩ = some v) : t.slice? ⟨a, c⟩ = some (u ++ v) := by
  obtain ⟨before, r, ht, hstart, hmiddle⟩ := slice?_eq_some_iff.1 h
  obtain ⟨before', r', ht', hmiddle', hstop⟩ := slice?_eq_some_iff.1 h'
  have hcut : t.cut? b = some (before ++ u, r) := cut?_eq_some_iff.2 ⟨ht, hmiddle⟩
  have hcut' : t.cut? b = some (before', v ++ r') := cut?_eq_some_iff.2 ⟨by rw [ht', List.append_assoc], hmiddle'⟩
  obtain ⟨rfl, -⟩ := Prod.mk.inj (Option.some.inj (hcut.symm.trans hcut'))
  exact slice?_eq_some_iff.2 ⟨before, r', by simp [ht'], hstart, by simpa using hstop⟩

theorem Cursor.IsIn.slice? {o : Cursor} {t w : Text} (ho : o.IsIn t) (hw : w <+: o.rest) :
    t.slice? ⟨o.offset, o.offset + w.byteLength⟩ = some w := by
  obtain ⟨before, rfl, hbefore⟩ := ho
  obtain ⟨r, hr⟩ := hw
  refine Text.slice?_eq_some_iff.2 ⟨before, r, ?_, hbefore, ?_⟩
  · rw [← hr, List.append_assoc]
  · rw [Text.byteLength_append, hbefore]

namespace Expr

variable {i j : Nat} {a b c : Expr} {w t : Text} {block : Block}

/-- **What the blocks of such a pattern are made of**: the opening, the body, and the word behind them. -/
theorem slice?_of_framed (hnames : (framed i j a b c).names.Nodup) (hw : c.word? = some w)
    (hblock : block ∈ (Scanner.pattern ⟨(framed i j a b c).program⟩).blocks t) :
    t.slice? block.span = some (block.opening ++ block.body ++ w) := by
  obtain ⟨m, hm, hmatch⟩ := List.mem_filterMap.1 hblock
  obtain ⟨o, ho, hway⟩ := Program.reached_of_findAll hm
  obtain ⟨k, o', ho', hopening, hbody, hstop, hword⟩ := hway.framed ho hnames hw
  simp only [Block.ofMatch?, Option.bind_eq_bind, Option.bind_eq_some_iff, Option.pure_def, Option.some.injEq, hopening,
    hbody] at hmatch
  obtain ⟨_, -, _, rfl, opening, hslice, _, -, _, -, _, -, _, rfl, body, hslice', rfl⟩ := hmatch
  have hspan : m.span = ⟨m.span.start, o'.offset + w.byteLength⟩ := by rw [← hstop]
  show t.slice? m.span = some (opening ++ body ++ w)
  rw [hspan]
  exact Text.slice?_append (Text.slice?_append hslice hslice') (ho'.slice? hword)

theorem whole_iff_of_framed (hnames : (framed i j a b c).names.Nodup) (hw : c.word? = some w)
    (hblock : block ∈ (Scanner.pattern ⟨(framed i j a b c).program⟩).blocks t) : block.Whole t ↔ w = fence := by
  rw [Block.Whole, slice?_of_framed hnames hw hblock, Option.some.injEq]
  exact ⟨List.append_cancel_left, fun h => h ▸ rfl⟩

end Expr

theorem Pattern.eq_of_ofText {t : Text} {p : Pattern} {e : Expr} (hp : ofText t = .ok p) (he : Expr.ofText t = .ok e) :
    p = ⟨e.program⟩ := by
  unfold ofText at hp
  rw [he] at hp
  dsimp only at hp
  split at hp
  · cases hp
  · exact (Except.ok.inj hp).symm

/-! ## All scanners -/

/-- **Current blocks stay as they are just if they are whole.** To put contents in place of the body of a block that is
found leaves the text as it is just if the rendered block is what stands there. If the block is current for the
contents, it takes that it is whole; so being current means to stay as it is, for all contents, just for blocks that are
whole, or that can neither be current nor stay as they are. An inlining in which each outcome without a change is that
of a whole block makes the edits of the stale blocks alone. All blocks of the standard form are whole. Those of a
pattern that is an opening and a body with a single word behind them are whole just if this word is a fence. -/
theorem current_unaltered_iff_whole (s : Scanner) (t : Text) :
    (∀ b ∈ s.blocks t, ∃ old, t.slice? b.span = some old ∧
      (∀ contents, b.Unaltered t contents ↔ b.render contents = old) ∧
      (∀ contents, b.isCurrent contents → (b.Unaltered t contents ↔ b.Whole t)) ∧
      ((∀ contents, b.isCurrent contents ↔ b.Unaltered t contents) ↔
        b.Whole t ∨ ∀ contents, ¬ b.isCurrent contents ∧ ¬ b.Unaltered t contents)) ∧
    (∀ (id : Nat) (read : Reader) (base : Path) (sink : Sink) (u : Update),
      ((Document.scan s t id).inline read base sink).result = .ok u →
      (∀ o ∈ u.outcomes, o.changed = false → o.block.Whole t) →
      t.substitute? 0 (u.stale.map fun b => ⟨b.span, b.render (Reader.contents read base b.source)⟩) = some u.text) ∧
    (∀ b ∈ Scanner.standard.blocks t, b.Whole t) ∧
    ∀ (source : Text) (p : Pattern) (i j : Nat) (a b c : Expr) (w : Text), Pattern.ofText source = .ok p →
      Expr.ofText source = .ok (.framed i j a b c) → (Expr.framed i j a b c).names.Nodup → c.word? = some w →
      ∀ block ∈ (Scanner.pattern p).blocks t, block.Whole t ↔ w = fence := by
  refine ⟨fun b hb => ?_, fun id read base sink u hu hwhole => Document.substitute?_stale hu hwhole,
    fun b hb => (Block.standsIn_of_mem_blocks hb).span, ?_⟩
  · obtain ⟨old, hold⟩ := (s.located_blocks t b hb).span.exists_slice?
    refine ⟨old, hold, fun contents => ?_, fun _ => Block.unaltered_iff_whole, Block.current_iff_unaltered⟩
    rw [Block.unaltered_iff, hold, Option.some.injEq]
    exact eq_comm
  · intro source p i j a b c w hp he hnames hw block hblock
    obtain rfl := Pattern.eq_of_ofText hp he
    exact Expr.whole_iff_of_framed hnames hw hblock

/-- A pattern of blocks that open with tildes, closed by a word. -/
def tildeText (w : Text) : Text :=
  "(?s)(?P<open>~~~(?P<language>[a-z]+) file=(?P<source>[^\\n]+)\\n)(?P<body>.*?)" ++ w

def tildeOpening : Expr :=
  .seq (.literal "~~~") <|
  .seq (.group 2 (some "language") (.rep (.chars (.range 'a'.toNat 'z'.toNat)) 1 none true)) <|
  .seq (.literal " file=") <|
  .seq (.group 3 (some "source") (.rep (.chars (CharSet.one '\n').compl) 1 none true)) (.literal "\n")

def tildeExpr (w : Text) : Expr :=
  .framed 1 4 tildeOpening (.rep (.chars CharSet.empty.compl) 0 none false) (.literal w)

theorem ofText_tildeText {w : Text} (hparse : Expr.parse? (tildeText w) = some (tildeExpr w))
    (hbound : (tildeExpr w).byteBound = some 3408) :
    Expr.ofText (tildeText w) = .ok (tildeExpr w) ∧ Pattern.ofText (tildeText w) = .ok ⟨(tildeExpr w).program⟩ := by
  have hfits : (tildeExpr w).fits = true := Expr.fits_of_byteBound hbound (by decide)
  have hexpr : Expr.ofText (tildeText w) = .ok (tildeExpr w) := by simp [Expr.ofText, hparse, hfits]
  have hnames : Field.all.find? (!(tildeExpr w).names.contains ·.name) = none := by
    show Field.all.find? (!(tildeExpr []).names.contains ·.name) = none
    decide
  refine ⟨hexpr, ?_⟩
  rw [Pattern.ofText, hexpr]
  simp only [hnames]

def tildeDocument (w : Text) : Text := "~~~py file=a.py\nold\n" ++ w ++ ['\n']

/-- The block, if three characters close it. -/
def tildeBlock : Block := ⟨⟨0, 23⟩, "~~~py file=a.py\n", "py", "a.py", ⟨11, 15⟩, "old\n"⟩

def tildeDisk : Disk := ⟨[], [([("a.py" : Text)], .file (Text.bytes "old"))]⟩

/-- If a fence closes the block it is whole, and an inlining leaves it as it is. So is a block of the standard form. -/
theorem current_unaltered_iff_whole_of_fence :
    Pattern.ofText (tildeText fence) = .ok ⟨(tildeExpr fence).program⟩ ∧
    tildeBlock ∈ (Scanner.pattern ⟨(tildeExpr fence).program⟩).blocks (tildeDocument fence) ∧
    tildeBlock.Whole (tildeDocument fence) ∧ tildeBlock.isCurrent "old" ∧
    tildeBlock.Unaltered (tildeDocument fence) "old" ∧
    (∃ u, ((Document.scan (.pattern ⟨(tildeExpr fence).program⟩) (tildeDocument fence) 0).inline tildeDisk.readText []
      Sink.unlimited).result = .ok u ∧ u.stale = [] ∧ (tildeDocument fence).substitute? 0 [] = some u.text) ∧
    nestedReference.block ∈ Scanner.standard.blocks nestedReference.text ∧
    nestedReference.block.Whole nestedReference.text := by
  obtain ⟨hexpr, hpattern⟩ := ofText_tildeText (w := fence) (by decide +kernel) (by decide +kernel)
  have hblocks : (Scanner.pattern ⟨(tildeExpr fence).program⟩).blocks (tildeDocument fence) = [tildeBlock] := by
    decide +kernel
  have hmem : tildeBlock ∈ (Scanner.pattern ⟨(tildeExpr fence).program⟩).blocks (tildeDocument fence) := by
    rw [hblocks]
    exact List.mem_singleton_self _
  obtain ⟨hblock, hinline, -, hframed⟩ :=
    current_unaltered_iff_whole (.pattern ⟨(tildeExpr fence).program⟩) (tildeDocument fence)
  have hwhole : tildeBlock.Whole (tildeDocument fence) :=
    (hframed _ _ _ _ _ _ _ _ hpattern hexpr (by decide) rfl _ hmem).2 rfl
  have hcurrent : tildeBlock.isCurrent "old" := by decide
  obtain ⟨old, -, -, hiff, -⟩ := hblock _ hmem
  obtain ⟨u, hu⟩ : ∃ u, ((Document.scan (.pattern ⟨(tildeExpr fence).program⟩) (tildeDocument fence) 0).inline
      tildeDisk.readText [] Sink.unlimited).result = .ok u := exists_of_isOk (by decide +kernel)
  have houtcomes := (Document.inline_eq_ok hu).2.2.2.2
  have hscan : (Document.scan (.pattern ⟨(tildeExpr fence).program⟩) (tildeDocument fence) 0).blocks = [tildeBlock] :=
    hblocks
  rw [hscan] at houtcomes
  have hstale : u.stale = [] := by
    rw [Update.stale, houtcomes]
    decide +kernel
  have htext := hinline _ _ _ _ u hu fun o ho _ => by
    rw [houtcomes] at ho
    obtain rfl := List.mem_singleton.1 ho
    exact hwhole
  rw [hstale] at htext
  have hnested : nestedReference.block ∈ Scanner.standard.blocks nestedReference.text := by decide +kernel
  exact ⟨hpattern, hmem, hwhole, hcurrent, (hiff _ hcurrent).2 hwhole, ⟨u, hu, hstale, htext⟩, hnested,
    (current_unaltered_iff_whole .standard nestedReference.text).2.2.1 _ hnested⟩

/-- If tildes close the block it is current all the same, but to inline its contents puts a fence in their place. -/
theorem current_altered_of_tildes :
    (¬ ∀ (source : Text) (p : Pattern), Pattern.ofText source = .ok p → ∀ t : Text,
      ∀ b ∈ (Scanner.pattern p).blocks t, ∀ contents, b.isCurrent contents ↔ b.Unaltered t contents) ∧
    Pattern.ofText (tildeText "~~~") = .ok ⟨(tildeExpr "~~~").program⟩ ∧
    ∃ u, ((Document.scan (.pattern ⟨(tildeExpr "~~~").program⟩) (tildeDocument "~~~") 0).inline tildeDisk.readText []
      Sink.unlimited).result = .ok u ∧ u.outcomes.map (·.changed) = [false] ∧ u.text = tildeDocument fence ∧
      u.text ≠ u.before := by
  obtain ⟨-, hpattern⟩ := ofText_tildeText (w := "~~~") (by decide +kernel) (by decide +kernel)
  have hblocks : (Scanner.pattern ⟨(tildeExpr "~~~").program⟩).blocks (tildeDocument "~~~") = [tildeBlock] := by
    decide +kernel
  obtain ⟨u, hu⟩ : ∃ u, ((Document.scan (.pattern ⟨(tildeExpr "~~~").program⟩) (tildeDocument "~~~") 0).inline
      tildeDisk.readText [] Sink.unlimited).result = .ok u := exists_of_isOk (by decide +kernel)
  obtain ⟨-, -, hbefore, -, houtcomes⟩ := Document.inline_eq_ok hu
  have htext := Document.text_of_inline hu
  have hscan : (Document.scan (.pattern ⟨(tildeExpr "~~~").program⟩) (tildeDocument "~~~") 0).blocks = [tildeBlock] :=
    hblocks
  rw [hscan] at houtcomes htext
  refine ⟨fun hclaim => ?_, hpattern, u, hu, ?_, ?_, ?_⟩
  · have hmem : tildeBlock ∈ (Scanner.pattern ⟨(tildeExpr "~~~").program⟩).blocks (tildeDocument "~~~") := by
      rw [hblocks]
      exact List.mem_singleton_self _
    have hsame := (hclaim _ _ hpattern _ _ hmem "old").1 (by decide)
    revert hsame
    decide
  · rw [houtcomes]
    decide +kernel
  · rw [htext]
    decide +kernel
  · rw [htext, hbefore]
    decide +kernel

end SnippetSync
