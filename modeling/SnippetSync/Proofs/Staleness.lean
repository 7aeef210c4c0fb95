import SnippetSync.Proofs.Command
import SnippetSync.Proofs.Inlining

/-!
# Staleness is exact

A document is changed by inlining just if one of its blocks is stale, whatever the sources hold.

The bodies are compared block by block and the texts as a whole, so it has to be ruled out that stale blocks make up for
each other. They cannot: the body of a block goes up to the nearest fence, so the first stale block makes the text
longer before this fence, and from there on the text is ahead of what it was. It stays ahead, for where a block of the
document stands again further on, its first stand, fence included, lies wholly before the second one.

* `Passage.exists_behind_body` — where a passage begins again, it does so behind its body.
* `Outline.eq_nil_of_text_eq` — the invariant: a document is never a proper prolongation of its filling at the front.
* `Outline.fill_eq_self_iff`, `Outline.stale_update_eq_nil_iff` — what it is for no block to be stale.
* `Outline.isChanged_update_iff` — the two comparisons agree.
-/

namespace SnippetSync

namespace Passage

theorem fill_eq_self_iff {π : Passage} {contents : Path → Text} :
    π.fill contents = π ↔ π.body = contents π.source ++ ['\n'] := by
  obtain ⟨lead, o, body⟩ := π
  simp [fill, eq_comm, source]

theorem isCurrent_block_iff {π : Passage} {contents : Path → Text} {offset : Nat} :
    (π.block offset).isCurrent (contents (π.block offset).source) = true ↔ π.fill contents = π := by
  rw [Block.isCurrent_iff, fill_eq_self_iff]
  rfl

/-- Where the lead and the opening of a passage stand again further on in a text, they do so behind its body. -/
theorem exists_behind_body {π : Passage} (hπ : π.WellFormed) {s y r : Text} (hy : y ≠ [])
    (h : π.text ++ s = y ++ (π.lead ++ π.opening.text ++ r)) :
    ∃ m, π.body ++ fence ++ s = m ++ π.opening.text ++ r ∧ π.body.length ≤ m.length := by
  have hagain : π.lead ++ π.opening.text ++ (π.body ++ fence ++ s) = y ++ π.lead ++ π.opening.text ++ r := by
    simpa [text] using h
  obtain ⟨m, hm⟩ := Opening.disjoint_of_shift (hπ.opening_read []) hy hagain
  -- the opening begins with a fence, and the one behind the body is the first
  have hfence : π.body ++ fence ++ s = m ++ fence ++ (π.opening.language ++ π.opening.reference.text ++ r) := by
    rw [hm]
    simp [Opening.text]
  exact ⟨m, hm, hπ.body_clear.length_le hfence⟩

end Passage

namespace Outline

variable {ω : Outline} {contents : Path → Text}

/-- **Ahead stays ahead**: what a document begins with before its filling is nothing, and then the filling changes no
part. -/
theorem eq_nil_of_text_eq (hω : ω.WellFormed) {y : Text} (h : ω.text = y ++ (ω.fill contents).text) :
    y = [] ∧ ω.fill contents = ω := by
  obtain ⟨πs, tail⟩ := ω
  induction πs generalizing y with
  | nil => exact ⟨by simpa using h, rfl⟩
  | cons π πs ih =>
    have hbody : IsBody π.body := hω.head.body_clear
    rw [text_cons, text_fill_cons, Passage.text_fill] at h
    cases y with
    | nil =>
      have h' : π.body ++ fence ++ text ⟨πs, tail⟩ =
          (contents π.source ++ ['\n']) ++ fence ++ (fill contents ⟨πs, tail⟩).text := by
        simpa [Passage.text] using h
      obtain ⟨z, y, hz, hy, hlen⟩ := Text.exists_shift (hbody _) h'
      obtain ⟨rfl, hfill⟩ := ih hω.rest hy
      obtain rfl : z = [] := List.eq_nil_of_length_eq_zero hlen.symm
      refine ⟨rfl, ?_⟩
      have hπ : π.fill contents = π := Passage.fill_eq_self_iff.2 (by simpa using hz.symm)
      have hπs : πs.map (·.fill contents) = πs := congrArg Outline.passages hfill
      rw [fill, List.map_cons, hπ, hπs]
    | cons c y =>
      -- the filled passage begins further on, so its fence lies behind that of the passage, and the rest stays ahead
      exfalso
      have hagain : π.text ++ text ⟨πs, tail⟩ = (c :: y) ++ (π.lead ++ π.opening.text ++
          (contents π.source ++ ['\n'] ++ fence ++ (fill contents ⟨πs, tail⟩).text)) := by
        simpa using h
      obtain ⟨m, hm, hle⟩ := Passage.exists_behind_body hω.head (by simp) hagain
      have h' : π.body ++ fence ++ text ⟨πs, tail⟩ =
          (m ++ π.opening.text ++ (contents π.source ++ ['\n'])) ++ fence ++ (fill contents ⟨πs, tail⟩).text := by
        rw [hm]
        simp
      obtain ⟨z, y, hz, hy, hlen⟩ := Text.exists_shift (hbody _) h'
      obtain ⟨rfl, -⟩ := ih hω.rest hy
      have := congrArg List.length hz
      simp only [List.length_append, List.length_nil, List.length_singleton] at this hlen
      omega

/-- A filling that leaves the text as it is leaves every part as it is. -/
theorem fill_eq_self_iff (hω : ω.WellFormed) : ω.fill contents = ω ↔ (ω.fill contents).text = ω.text := by
  constructor
  · intro h; rw [h]
  · intro h
    have h' : ω.text = [] ++ (ω.fill contents).text := h.symm
    exact (eq_nil_of_text_eq hω h').2

theorem stale_update_eq_nil_iff_isCurrent :
    (ω.update contents).stale = [] ↔ ∀ b ∈ ω.blocks, b.isCurrent (contents b.source) = true := by
  simp [update, Update.stale, Block.outcome]

/-- No block is stale just if the filling leaves every part as it is. -/
theorem stale_update_eq_nil_iff : (ω.update contents).stale = [] ↔ ω.fill contents = ω := by
  obtain ⟨πs, tail⟩ := ω
  suffices h : ∀ offset, (∀ b ∈ blocksFrom offset πs, b.isCurrent (contents b.source) = true) ↔
      fill contents ⟨πs, tail⟩ = ⟨πs, tail⟩ by
    rw [← h 0]
    exact stale_update_eq_nil_iff_isCurrent
  induction πs with
  | nil => simp [blocksFrom]
  | cons π πs ih =>
    intro offset
    have hcons : fill contents ⟨π :: πs, tail⟩ = ⟨π :: πs, tail⟩ ↔
        π.fill contents = π ∧ fill contents ⟨πs, tail⟩ = ⟨πs, tail⟩ := by simp [fill]
    rw [hcons, ← ih (offset + π.text.byteLength), blocksFrom, List.forall_mem_cons, Passage.isCurrent_block_iff]

/-- **The two comparisons agree.** -/
theorem isChanged_update_iff (hω : ω.WellFormed) :
    (ω.update contents).isChanged = true ↔ (ω.update contents).stale ≠ [] := by
  rw [ne_eq, stale_update_eq_nil_iff, fill_eq_self_iff hω]
  simp [update, Update.isChanged]

end Outline

/-! ## Documents and checks -/

/-- No block of an inlined document is stale just if the text is what it was. -/
theorem Document.stale_eq_nil_iff {t : Text} {id : Nat} {read : Reader} {base : Path} {sink : Sink} {u : Update}
    (h : ((Document.scan .standard t id).inline read base sink).result = .ok u) : u.stale = [] ↔ u.text = t := by
  obtain ⟨ω, hω, rfl⟩ := Outline.exists_of_text t
  obtain ⟨-, -, rfl⟩ := Outline.inline_eq_ok hω h
  rw [Outline.stale_update_eq_nil_iff, Outline.fill_eq_self_iff hω]
  rfl

/-- **Staleness is exact.** If the sources of the blocks of a text can be read, the text is changed by inlining just if
a block is stale. So a check succeeds just if the document and all its sources can be read and what a plain run writes
is what the document holds already; otherwise its code is one. -/
theorem staleness_exact :
    (∀ (t : Text) (id : Nat) (read : Reader) (base : Path) (sink : Sink),
      (∀ b ∈ t.blocks, ∃ c, read (base.join b.source) = .ok c) →
      (∀ u, ((Document.scan .standard t id).inline read base sink).result = .ok u →
        (u.isChanged = true ↔ u.stale ≠ [])) ∧
      (sink.limit = none → ∃ u, ((Document.scan .standard t id).inline read base sink).result = .ok u)) ∧
    (∀ (check plain : Invocation) (o o' : Options) (d : Disk) (stdout : Sink),
      Request.parse check.arguments = .ok (.run o) → o.check = true →
      Request.parse plain.arguments = .ok (.run o') → o'.check = false → o'.list = false → o'.file = o.file →
      ((check.run d stdout).2.code = 0 ↔ ∃ t, d.readText o.file = .ok t ∧
        (∀ b ∈ t.blocks, ∃ c, d.readText b.source = .ok c) ∧
        (plain.plan d.readText Sink.unlimited).written? = some (o.file, t)) ∧
      ((check.run d stdout).2.code ≠ 0 → (check.run d stdout).2.code = 1)) := by
  constructor
  · intro t id read base sink hread
    obtain ⟨ω, hω, rfl⟩ := Outline.exists_of_text t
    rw [hω.blocks_text] at hread
    constructor
    · intro u hu
      obtain ⟨-, -, rfl⟩ := Outline.inline_eq_ok hω hu
      exact Outline.isChanged_update_iff hω
    · intro hsink
      have hreads : ∀ s ∈ ω.sources, Reader.Reads read base s := Outline.forall_sources_iff.2 hread
      exact ⟨_, (Outline.inline_eq_ok_iff hω).2 ⟨hreads, Sink.takes_of_unlimited hsink _, rfl⟩⟩
  · intro check plain o o' d stdout hcheck hc hplain hc' hl' hfile
    obtain ⟨-, hcode, hzero⟩ := Invocation.run_check hcheck hc d stdout
    refine ⟨hzero.trans ?_, fun hne => hcode.resolve_left hne⟩
    simp only [Invocation.written?_plain hplain hc' hl', hfile, true_and]
    constructor
    · rintro ⟨t, u, ht, hu, hstale⟩
      refine ⟨t, ht, fun b hb => ?_, t, u, ht, hu, (Document.stale_eq_nil_iff hu).1 hstale⟩
      have hread := (Document.inline_eq_ok hu).1 b hb
      rwa [Reader.Reads, Path.join_nil] at hread
    · rintro ⟨t, ht, -, t', u, ht', hu, rfl⟩
      obtain rfl : u.text = t' := Except.ok.inj (ht.symm.trans ht')
      exact ⟨u.text, u, ht', hu, (Document.stale_eq_nil_iff hu).2 rfl⟩

/-- Two blocks that hold each other's sources. -/
def swappedText : Text := "```a {source=x}\n12\n```\n```b {source=y}\n1\n```\n"

def swappedDisk : Disk :=
  ⟨[], [([("README.md" : Text)], .file swappedText.bytes), ([("x" : Text)], .file (Text.bytes "1")),
    ([("y" : Text)], .file (Text.bytes "12"))]⟩

/-- The two blocks after a sync. -/
def refreshedText : Text := "```a {source=x}\n1\n```\n```b {source=y}\n12\n```\n"

theorem inline_swapped :
    ∃ u, ((Document.scan .standard swappedText 0).inline swappedDisk.readText [] Sink.unlimited).result = .ok u ∧
      u.text = refreshedText ∧ u.stale = swappedText.blocks := by
  have hvalues : ((Document.scan .standard swappedText 0).inline swappedDisk.readText []
      Sink.unlimited).result.toOption.map (fun u => (u.text, u.stale)) = some (refreshedText, swappedText.blocks) := by
    decide +kernel
  obtain ⟨u, hu, h⟩ := exists_of_map_toOption hvalues
  simp only [Prod.mk.injEq] at h
  exact ⟨u, hu, h⟩

theorem staleness_exact_of_swapped :
    (∀ b ∈ swappedText.blocks, ∃ c, swappedDisk.readText (Path.join [] b.source) = .ok c) ∧
    (∃ u, ((Document.scan .standard swappedText 0).inline swappedDisk.readText [] Sink.unlimited).result = .ok u ∧
      u.stale = swappedText.blocks ∧ u.stale.length = 2 ∧ u.isChanged = true ∧
      (u.isChanged = true ↔ u.stale ≠ [])) ∧
    Request.parse ["--check", "README.md"] = .ok (.run ⟨"README.md", true, false, false, false⟩) ∧
    Request.parse ["README.md"] = .ok (.run ⟨"README.md", false, false, false, false⟩) ∧
    ((Invocation.run ⟨["--check", "README.md"], []⟩ swappedDisk Sink.unlimited).2.code = 0 ↔
      ∃ t, swappedDisk.readText "README.md" = .ok t ∧ (∀ b ∈ t.blocks, ∃ c, swappedDisk.readText b.source = .ok c) ∧
        ((⟨["README.md"], []⟩ : Invocation).plan swappedDisk.readText Sink.unlimited).written? =
          some (("README.md" : Text), t)) ∧
    (Invocation.run ⟨["--check", "README.md"], []⟩ swappedDisk Sink.unlimited).2.code = 1 := by
  have hok : ∀ b ∈ swappedText.blocks, (swappedDisk.readText (Path.join [] b.source)).isOk = true := by
    decide +kernel
  have hread : ∀ b ∈ swappedText.blocks, ∃ c, swappedDisk.readText (Path.join [] b.source) = .ok c :=
    fun b hb => exists_of_isOk (hok b hb)
  obtain ⟨hchanged, hreturns⟩ := staleness_exact.1 swappedText 0 swappedDisk.readText [] Sink.unlimited hread
  obtain ⟨u, hu⟩ := hreturns rfl
  obtain ⟨u', hu', -, hstale⟩ := inline_swapped
  obtain rfl : u = u' := Except.ok.inj (hu.symm.trans hu')
  have hlength : u.stale.length = 2 := by
    rw [hstale]
    decide +kernel
  have hne : u.stale ≠ [] := List.ne_nil_of_length_eq_add_one hlength
  obtain ⟨hzero, hone⟩ := staleness_exact.2 ⟨["--check", "README.md"], []⟩ ⟨["README.md"], []⟩ _ _ swappedDisk
    Sink.unlimited rfl rfl rfl rfl rfl rfl
  exact ⟨hread, ⟨u, hu, hstale, hlength, (hchanged u hu).2 hne, hchanged u hu⟩, rfl, rfl, hzero,
    hone (by decide +kernel)⟩

end SnippetSync
