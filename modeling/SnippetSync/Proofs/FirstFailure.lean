import SnippetSync.Proofs.Rewriting

/-!
# Which failure wins

Blocks are visited from the last to the first, and three things can fail at each: to read its source, to announce it and
to replace it. Whether they do can be said of a block by the blocks behind it alone, without a splicer and without a
sink that has been written to: the announcements up to this block are one text, of which a sink takes what it can, and
the next block tells where the text has to be left alone.

* `Document.failureAt?` — what fails at a block, of the three the first.
* `Document.Passes` — nothing fails at some blocks.
* `Sink.overflow?`, `Sink.taken` — what a fresh sink makes of a text written to it piece by piece.
* `Document.Reached` — **the invariant**: how far an inlining has come that has passed some blocks.
* `Document.Reached.visit`, `Document.Passes.exists_reached` — one visit, and all visits that pass.
* `Document.FailsFirst` — the first visited block at which something fails, and what fails there.
* `Document.inline_of_failsFirst`, `Document.inline_of_passes` — what the inlining comes to.
* `first_failure_wins` — **the first failure wins**, and just what was announced up to there is written.
-/

namespace SnippetSync

/-! ## What a sink takes -/

namespace Sink

variable {limit : Option (Nat × Fault)} {t : Text}

/-- The fault of a sink to which a text is written, if it does not take the whole of it. -/
def overflow? (limit : Option (Nat × Fault)) (t : Text) : Option Fault :=
  limit.bind fun l => if l.1 < t.byteLength then some l.2 else none

/-- What a sink takes of a text. -/
def taken (limit : Option (Nat × Fault)) (t : Text) : List UInt8 := limit.elim t.bytes fun l => t.bytes.take l.1

theorem taken_of_fits (h : overflow? limit t = none) : taken limit t = t.bytes := by
  cases limit with
  | none => rfl
  | some l =>
    have hle : t.byteLength ≤ l.1 := by simpa [overflow?] using h
    exact List.take_of_length_le (by rwa [Text.length_bytes])

theorem write_of_fits (h : overflow? limit t = none) (l : Text) :
    (⟨limit, t.bytes⟩ : Sink).write l = (⟨limit, taken limit (t ++ l)⟩, overflow? limit (t ++ l)) := by
  cases limit with
  | none => simp [taken, overflow?]
  | some n =>
    obtain ⟨n, fault⟩ := n
    have hle : t.byteLength ≤ n := by simpa [overflow?] using h
    have htaken : ((⟨some (n, fault), t.bytes⟩ : Sink).write l).1.accepted = (t.bytes ++ l.bytes).take n :=
      accepted_write l (by rwa [Text.length_bytes])
    have hroom : n - t.bytes.length < l.byteLength ↔ n < (t ++ l).byteLength := by
      rw [Text.length_bytes, Text.byteLength_append]
      omega
    have hfault : ((⟨some (n, fault), t.bytes⟩ : Sink).write l).2 = overflow? (some (n, fault)) (t ++ l) := by
      simp only [write, overflow?, hroom, Option.bind_some]
    rw [← hfault, taken, Option.elim_some, Text.bytes_append, ← htaken]
    rfl

end Sink

/-- The lines that announce some blocks, the last block first. -/
def Block.announcements (bs : List Block) : Text := Text.concat (bs.map announcement).reverse

theorem Block.announcements_cons (b : Block) (bs : List Block) :
    announcements (b :: bs) = announcements bs ++ b.announcement := by
  simp [announcements, Text.concat]

/-- What has been announced when the visit of a block fails: the block too, unless its source could not be read. -/
def Failure.announced (f : Failure) (b : Block) (behind : List Block) : Text :=
  match f with
  | .readSource .. => Block.announcements behind
  | _ => Block.announcements (b :: behind)

/-! ## What fails at a block -/

namespace Document

/-- Where the first of some blocks starts; the end of the text if there is none. -/
def floor (d : Document) (bs : List Block) : Nat := (bs.head?.map (·.span.start)).getD d.text.byteLength

def unread? (d : Document) (read : Reader) (base : Path) (b : Block) : Option Failure :=
  match read (base.join b.source) with
  | .error fault => some (.readSource (base.join b.source) b.sourceSpan d.id fault)
  | .ok _ => none

/-- What fails at a block when those behind it have been visited: to read its source, or else to announce it, or else to
replace it. -/
def failureAt? (d : Document) (read : Reader) (base : Path) (limit : Option (Nat × Fault)) (behind : List Block)
    (b : Block) : Option Failure :=
  d.unread? read base b <|> (Sink.overflow? limit (Block.announcements (b :: behind))).map .output <|>
    (d.text.refusal? (d.floor behind) b.span).map .splice

theorem failureAt?_of_unread {d : Document} {read : Reader} {base : Path} {limit : Option (Nat × Fault)}
    {behind : List Block} {b : Block} {fault : Fault} (h : read (base.join b.source) = .error fault) :
    d.failureAt? read base limit behind b = some (.readSource (base.join b.source) b.sourceSpan d.id fault) := by
  simp [failureAt?, unread?, h]

theorem failureAt?_of_read {d : Document} {read : Reader} {base : Path} {limit : Option (Nat × Fault)}
    {behind : List Block} {b : Block} {contents : Text} (h : read (base.join b.source) = .ok contents) :
    d.failureAt? read base limit behind b =
      ((Sink.overflow? limit (Block.announcements (b :: behind))).map .output <|>
        (d.text.refusal? (d.floor behind) b.span).map .splice) := by
  simp [failureAt?, unread?, h]

def Passes (d : Document) (read : Reader) (base : Path) (limit : Option (Nat × Fault)) (bs : List Block) : Prop :=
  ∀ b behind, (b :: behind) <:+ bs → d.failureAt? read base limit behind b = none

/-- Of the blocks of the document this is the first one visited at which something fails. -/
structure FailsFirst (d : Document) (read : Reader) (base : Path) (limit : Option (Nat × Fault)) (f : Failure)
    (b : Block) (behind : List Block) : Prop where
  suffix : (b :: behind) <:+ d.blocks
  failure : d.failureAt? read base limit behind b = some f
  passes : d.Passes read base limit behind

variable {d : Document} {read : Reader} {base : Path} {limit : Option (Nat × Fault)} {f : Failure} {b : Block}
  {bs behind : List Block}

theorem passes_nil : d.Passes read base limit [] := by
  intro b behind h
  have := h.length_le
  simp at this

theorem passes_cons_iff : d.Passes read base limit (b :: bs) ↔
    d.failureAt? read base limit bs b = none ∧ d.Passes read base limit bs := by
  constructor
  · intro h
    exact ⟨h b bs (List.suffix_refl _), fun c later hc => h c later (hc.trans (List.suffix_cons b bs))⟩
  · rintro ⟨hb, hbs⟩ c later hc
    rcases List.suffix_cons_iff.1 hc with heq | hc
    · obtain ⟨rfl, rfl⟩ := List.cons_eq_cons.1 heq
      exact hb
    · exact hbs c later hc

theorem passes_or_exists (d : Document) (read : Reader) (base : Path) (limit : Option (Nat × Fault)) (bs : List Block) :
    d.Passes read base limit bs ∨ ∃ f b behind, (b :: behind) <:+ bs ∧
      d.failureAt? read base limit behind b = some f ∧ d.Passes read base limit behind := by
  induction bs with
  | nil => exact .inl passes_nil
  | cons b bs ih =>
    rcases ih with hbs | ⟨f, c, behind, hc, hf, hbehind⟩
    · cases hb : d.failureAt? read base limit bs b with
      | none => exact .inl (passes_cons_iff.2 ⟨hb, hbs⟩)
      | some f => exact .inr ⟨f, b, bs, List.suffix_refl _, hb, hbs⟩
    · exact .inr ⟨f, c, behind, hc.trans (List.suffix_cons b bs), hf, hbehind⟩

/-! ## Visits -/

/-- How far an inlining has come that has passed these blocks: it has made their edits, and its sink has taken their
announcements. -/
structure Reached (d : Document) (read : Reader) (base : Path) (limit : Option (Nat × Fault)) (behind : List Block)
    (p : Progress) : Prop where
  made : Splicer.Made d.text (behind.map (·.edit (Reader.contents read base))) p.splicer
  sink : p.sink = ⟨limit, (Block.announcements behind).bytes⟩
  fits : Sink.overflow? limit (Block.announcements behind) = none

theorem reached_ofText (d : Document) (read : Reader) (base : Path) (limit : Option (Nat × Fault)) :
    d.Reached read base limit [] (.ofText d.text ⟨limit, []⟩) := by
  refine ⟨Splicer.made_ofText d.text, rfl, ?_⟩
  cases limit <;> rfl

theorem Reached.floor {p : Progress} (h : d.Reached read base limit behind p) : p.splicer.floor = d.floor behind := by
  rw [h.made.floor]
  cases behind <;> rfl

/-- **One visit** ends with what fails at the block. -/
theorem Reached.visit {p : Progress} (h : d.Reached read base limit behind p) (b : Block) :
    ∃ p', p.visit read base d.id b = (p', d.failureAt? read base limit behind b) ∧
      (d.failureAt? read base limit behind b = none → d.Reached read base limit (b :: behind) p') ∧
      ∀ f, d.failureAt? read base limit behind b = some f →
        p'.sink.accepted = Sink.taken limit (f.announced b behind) := by
  have hwrite : p.sink.write b.announcement = (⟨limit, Sink.taken limit (Block.announcements (b :: behind))⟩,
      Sink.overflow? limit (Block.announcements (b :: behind))) := by
    rw [h.sink, Sink.write_of_fits h.fits, Block.announcements_cons]
  rcases hvisit : p.visit read base d.id b with ⟨p', failure?⟩
  cases Progress.visits_of_visit hvisit with
  | unread source =>
    rw [failureAt?_of_unread source]
    refine ⟨_, rfl, nofun, fun f hf => ?_⟩
    obtain rfl := Option.some.inj hf
    rw [h.sink]
    exact (Sink.taken_of_fits h.fits).symm
  | unannounced source announce =>
    rw [hwrite] at announce
    obtain ⟨rfl, hfits⟩ := Prod.mk.inj announce
    rw [failureAt?_of_read source, hfits]
    refine ⟨_, rfl, nofun, fun f hf => ?_⟩
    obtain rfl := Option.some.inj hf
    rfl
  | refused source announce replace =>
    rw [hwrite] at announce
    obtain ⟨rfl, hfits⟩ := Prod.mk.inj announce
    have hrefusal := h.made.replace_eq_error_iff.1 replace
    rw [h.floor] at hrefusal
    rw [failureAt?_of_read source, hfits, hrefusal]
    refine ⟨_, rfl, nofun, fun f hf => ?_⟩
    obtain rfl := Option.some.inj hf
    rfl
  | done source announce replace =>
    rw [hwrite] at announce
    obtain ⟨rfl, hfits⟩ := Prod.mk.inj announce
    rcases h.made.replace_cases _ with ⟨r, -, hreplace⟩ | ⟨hrefusal, s, hreplace, hmade⟩
    · rw [replace] at hreplace
      cases hreplace
    · obtain rfl := Except.ok.inj (replace.symm.trans hreplace)
      rw [h.floor] at hrefusal
      rw [failureAt?_of_read source, hfits, hrefusal]
      refine ⟨_, rfl, fun _ => ⟨?_, ?_, hfits⟩, nofun⟩
      · rw [List.map_cons, Block.edit, Reader.contents_of_ok source]
        exact hmade
      · rw [Sink.taken_of_fits hfits]

end Document

theorem Progress.visitAll_append {read : Reader} {base : Path} {id : Nat} {p q : Progress} {xs : List Block}
    (h : p.visitAll read base id xs = (q, none)) (ys : List Block) :
    p.visitAll read base id (xs ++ ys) = q.visitAll read base id ys := by
  induction xs generalizing p with
  | nil =>
    obtain rfl : p = q := congrArg Prod.fst h
    rfl
  | cons x xs ih =>
    rw [List.cons_append, visitAll]
    rw [visitAll] at h
    split at h
    · exact ih h
    · cases h

namespace Document

variable {d : Document} {read : Reader} {base : Path} {limit : Option (Nat × Fault)} {f : Failure} {b : Block}
  {bs behind : List Block}

theorem Passes.exists_reached (h : d.Passes read base limit behind) :
    ∃ p, (Progress.ofText d.text ⟨limit, []⟩).visitAll read base d.id behind.reverse = (p, none) ∧
      d.Reached read base limit behind p := by
  induction behind with
  | nil => exact ⟨_, rfl, reached_ofText d read base limit⟩
  | cons b behind ih =>
    obtain ⟨hb, hbehind⟩ := passes_cons_iff.1 h
    obtain ⟨p, hp, hreached⟩ := ih hbehind
    obtain ⟨p', hvisit, hpass, -⟩ := hreached.visit b
    rw [hb] at hvisit
    refine ⟨p', ?_, hpass hb⟩
    rw [List.reverse_cons, Progress.visitAll_append hp]
    unfold Progress.visitAll
    rw [hvisit]
    rfl

theorem inline_of_passes (h : d.Passes read base limit d.blocks) :
    ∃ u, (d.inline read base ⟨limit, []⟩).result = .ok u ∧
      (d.inline read base ⟨limit, []⟩).sink.accepted = (Block.announcements d.blocks).bytes ∧
      Sink.overflow? limit (Block.announcements d.blocks) = none := by
  obtain ⟨p, hp, hreached⟩ := h.exists_reached
  unfold inline
  rw [hp]
  exact ⟨_, rfl, congrArg Sink.accepted hreached.sink, hreached.fits⟩

theorem inline_of_failsFirst (h : d.FailsFirst read base limit f b behind) :
    (d.inline read base ⟨limit, []⟩).result = .error f ∧
      (d.inline read base ⟨limit, []⟩).sink.accepted = Sink.taken limit (f.announced b behind) := by
  obtain ⟨before, hblocks⟩ := h.suffix
  obtain ⟨p, hp, hreached⟩ := h.passes.exists_reached
  obtain ⟨p', hvisit, -, htaken⟩ := hreached.visit b
  rw [h.failure] at hvisit
  have hreverse : d.blocks.reverse = behind.reverse ++ b :: before.reverse := by
    rw [← hblocks]
    simp
  have hvisits : (Progress.ofText d.text ⟨limit, []⟩).visitAll read base d.id d.blocks.reverse = (p', some f) := by
    rw [hreverse, Progress.visitAll_append hp]
    unfold Progress.visitAll
    rw [hvisit]
  unfold inline
  rw [hvisits]
  exact ⟨rfl, htaken f h.failure⟩

theorem passes_iff : d.Passes read base limit d.blocks ↔ ∃ u, (d.inline read base ⟨limit, []⟩).result = .ok u := by
  constructor
  · intro h
    obtain ⟨u, hu, -⟩ := inline_of_passes h
    exact ⟨u, hu⟩
  · rintro ⟨u, hu⟩
    rcases passes_or_exists d read base limit d.blocks with h | ⟨f, b, behind, hsuffix, hf, hbehind⟩
    · exact h
    · have hfail := (inline_of_failsFirst ⟨hsuffix, hf, hbehind⟩).1
      rw [hu] at hfail
      cases hfail

theorem inline_eq_error_iff :
    (d.inline read base ⟨limit, []⟩).result = .error f ↔ ∃ b behind, d.FailsFirst read base limit f b behind := by
  constructor
  · intro h
    rcases passes_or_exists d read base limit d.blocks with hpass | ⟨f', b, behind, hsuffix, hf, hbehind⟩
    · obtain ⟨u, hu⟩ := passes_iff.1 hpass
      rw [hu] at h
      cases h
    · have hfirst : d.FailsFirst read base limit f' b behind := ⟨hsuffix, hf, hbehind⟩
      have hfail := (inline_of_failsFirst hfirst).1
      rw [h] at hfail
      obtain rfl := Except.error.inj hfail
      exact ⟨b, behind, hfirst⟩
  · rintro ⟨b, behind, h⟩
    exact (inline_of_failsFirst h).1

/-- What fails at a block is told by the text, the number of the document, and the blocks and sources from there on. -/
theorem failureAt?_congr {d' : Document} {read' : Reader} (htext : d'.text = d.text) (hid : d'.id = d.id)
    (hread : read' (base.join b.source) = read (base.join b.source)) :
    d'.failureAt? read' base limit behind b = d.failureAt? read base limit behind b := by
  unfold failureAt? unread? floor
  rw [htext, hid, hread]

theorem failureAt?_unlimited (h : ∀ fault, d.failureAt? read base limit behind b ≠ some (.output fault)) :
    d.failureAt? read base none behind b = d.failureAt? read base limit behind b := by
  cases hread : read (base.join b.source) with
  | error fault => rw [failureAt?_of_unread hread, failureAt?_of_unread hread]
  | ok contents =>
    rw [failureAt?_of_read hread] at h ⊢
    rw [failureAt?_of_read hread]
    cases hfits : Sink.overflow? limit (Block.announcements (b :: behind)) with
    | none => rfl
    | some fault =>
      rw [hfits] at h
      exact absurd rfl (h fault)

theorem Passes.unlimited (h : d.Passes read base limit bs) : d.Passes read base none bs := by
  intro b behind hb
  have hnone := h b behind hb
  have hsame : d.failureAt? read base none behind b = d.failureAt? read base limit behind b :=
    failureAt?_unlimited (by simp [hnone])
  rw [hsame, hnone]

/-- **An announcement fails just if there is too much to announce**, the block at which it fails included. -/
theorem FailsFirst.eq_output_iff (h : d.FailsFirst read base limit f b behind) {fault : Fault} :
    f = .output fault ↔ Sink.overflow? limit (f.announced b behind) = some fault := by
  have hfailure := h.failure
  cases hread : read (base.join b.source) with
  | error fault' =>
    obtain ⟨p, -, hreached⟩ := h.passes.exists_reached
    rw [failureAt?_of_unread hread] at hfailure
    obtain rfl := Option.some.inj hfailure
    simp [Failure.announced, hreached.fits]
  | ok contents =>
    rw [failureAt?_of_read hread] at hfailure
    cases hfits : Sink.overflow? limit (Block.announcements (b :: behind)) with
    | some fault' =>
      rw [hfits] at hfailure
      obtain rfl := Option.some.inj hfailure
      simp [Failure.announced, hfits]
    | none =>
      rw [hfits] at hfailure
      obtain ⟨r, -, rfl⟩ := Option.map_eq_some_iff.1 hfailure
      simp [Failure.announced, hfits]

theorem result_inline_unlimited (h : ∀ fault, (d.inline read base ⟨limit, []⟩).result ≠ .error (.output fault)) :
    (d.inline read base ⟨limit, []⟩).result = (d.inline read base ⟨none, []⟩).result := by
  cases hresult : (d.inline read base ⟨limit, []⟩).result with
  | ok u => exact (inline_unlimited hresult).symm
  | error f =>
    obtain ⟨b, behind, hfirst⟩ := inline_eq_error_iff.1 hresult
    have hsame : d.failureAt? read base none behind b = some f := by
      rw [← hfirst.failure]
      apply failureAt?_unlimited
      intro fault hfault
      obtain rfl := Option.some.inj (hfirst.failure.symm.trans hfault)
      exact h fault hresult
    exact (inline_of_failsFirst ⟨hfirst.suffix, hsame, hfirst.passes.unlimited⟩).1.symm

end Document

/-- **The first failure wins.** With a sink that takes `n` bytes, an inlining fails with what fails at the first visited
block at which anything does, be it that its source cannot be read, that its announcement goes beyond `n` bytes, or that
its span does not fit in before the block behind it; and it succeeds if nothing fails. The sink then has the first `n`
bytes of what was announced, the failing block included unless its source could not be read, and to announce fails
just if this is more than `n` bytes. What comes before the failing block plays no role. Unless to announce fails, the
result is that with a sink that takes everything. -/
theorem first_failure_wins (d : Document) (read : Reader) (base : Path) (n : Nat) (fault : Fault) :
    let attempt := d.inline read base (Sink.limited n fault)
    (∀ f, attempt.result = .error f ↔ ∃ b behind, d.FailsFirst read base (some (n, fault)) f b behind) ∧
    ((∃ u, attempt.result = .ok u) ↔
      ∀ b behind, (b :: behind) <:+ d.blocks → d.failureAt? read base (some (n, fault)) behind b = none) ∧
    (∀ u, attempt.result = .ok u → attempt.sink.accepted = (Block.announcements d.blocks).bytes.take n ∧
      (Block.announcements d.blocks).byteLength ≤ n) ∧
    (∀ f b behind, d.FailsFirst read base (some (n, fault)) f b behind →
      attempt.sink.accepted = (f.announced b behind).bytes.take n ∧
      (f = .output fault ↔ n < (f.announced b behind).byteLength) ∧
      ∀ (d' : Document) (read' : Reader), d'.text = d.text → d'.id = d.id → (b :: behind) <:+ d'.blocks →
        (∀ c ∈ b :: behind, read' (base.join c.source) = read (base.join c.source)) →
        (d'.inline read' base (Sink.limited n fault)).result = .error f ∧
        (d'.inline read' base (Sink.limited n fault)).sink.accepted = attempt.sink.accepted) ∧
    (attempt.result = .error (.output fault) ∨ attempt.result = (d.inline read base Sink.unlimited).result) := by
  intro attempt
  have hoverflow : ∀ {t : Text} {fault' : Fault},
      Sink.overflow? (some (n, fault)) t = some fault' ↔ n < t.byteLength ∧ fault = fault' := by
    intro t fault'
    simp [Sink.overflow?]
  refine ⟨fun f => Document.inline_eq_error_iff, Document.passes_iff.symm, ?_, ?_, ?_⟩
  · intro u hu
    obtain ⟨-, -, haccepted, hfits⟩ := Document.inline_of_passes (Document.passes_iff.2 ⟨u, hu⟩)
    have hle : ¬ n < (Block.announcements d.blocks).byteLength := by
      intro hlt
      rw [hoverflow.2 ⟨hlt, rfl⟩] at hfits
      cases hfits
    exact ⟨haccepted.trans (Sink.taken_of_fits hfits).symm, by omega⟩
  · intro f b behind hfirst
    have haccepted := (Document.inline_of_failsFirst hfirst).2
    refine ⟨haccepted, ?_, ?_⟩
    · rw [hfirst.eq_output_iff, hoverflow]
      exact and_iff_left rfl
    · intro d' read' htext hid hsuffix hread
      have hfirst' : d'.FailsFirst read' base (some (n, fault)) f b behind := by
        refine ⟨hsuffix, ?_, fun c later hc => ?_⟩
        · rw [Document.failureAt?_congr htext hid (hread b List.mem_cons_self)]
          exact hfirst.failure
        · have hc' : c ∈ b :: behind := List.mem_cons_of_mem b (hc.mem List.mem_cons_self)
          rw [Document.failureAt?_congr htext hid (hread c hc')]
          exact hfirst.passes c later hc
      obtain ⟨hresult', haccepted'⟩ := Document.inline_of_failsFirst hfirst'
      exact ⟨hresult', haccepted'.trans haccepted.symm⟩
  · by_cases hout : attempt.result = .error (.output fault)
    · exact .inl hout
    · right
      apply Document.result_inline_unlimited
      intro fault' hfault'
      obtain ⟨b, behind, hfirst⟩ := Document.inline_eq_error_iff.1 hfault'
      obtain ⟨-, rfl⟩ := hoverflow.1 (hfirst.eq_output_iff.1 rfl)
      exact hout hfault'

/-- A block out of place whose source is missing. -/
def strayBlock : Block := ⟨⟨9, 4⟩, [], [], "z", ⟨0, 0⟩, []⟩

/-- The sink takes one announcement and the beginning of the next one. -/
theorem first_failure_wins_of_touching :
    touchingDocument.FailsFirst touchingDisk.readText [] (some (12, .outputFull)) (.output .outputFull) emptyBlock
      [arrowBlock] ∧
    (touchingDocument.inline touchingDisk.readText [] (Sink.limited 12 .outputFull)).sink.accepted =
      Text.bytes "inlined y\nin" ∧
    (Document.inline ⟨touchingDocument.text, [strayBlock, emptyBlock, arrowBlock], 0⟩ touchingDisk.readText []
      (Sink.limited 12 .outputFull)).result = .error (.output .outputFull) := by
  have hfirst : touchingDocument.FailsFirst touchingDisk.readText [] (some (12, .outputFull)) (.output .outputFull)
      emptyBlock [arrowBlock] := by
    refine ⟨List.suffix_refl _, ?_, Document.passes_cons_iff.2 ⟨?_, Document.passes_nil⟩⟩
    · decide +kernel
    · decide +kernel
  obtain ⟨-, -, -, hfails, -⟩ := first_failure_wins touchingDocument touchingDisk.readText [] 12 .outputFull
  obtain ⟨haccepted, -, hbefore⟩ := hfails _ _ _ hfirst
  have hannounced : ((Failure.output .outputFull).announced emptyBlock [arrowBlock]).bytes.take 12 =
      Text.bytes "inlined y\nin" := by decide +kernel
  obtain ⟨hresult, -⟩ := hbefore ⟨touchingDocument.text, [strayBlock, emptyBlock, arrowBlock], 0⟩ touchingDisk.readText
    rfl rfl (List.suffix_cons _ _) fun _ _ => rfl
  exact ⟨hfirst, haccepted.trans hannounced, hresult⟩

end SnippetSync
