import SnippetSync.Proofs.Command
import SnippetSync.Proofs.Inlining
import SnippetSync.Proofs.Overwriting

/-!
# What a sync in place leaves on the disk

* `Inliner.result_sync_eq_ok_iff`, `Inliner.result_syncInPlace_of_readText` — when a sync succeeds, and when it does so
  in place.
* `Inliner.disk_syncInPlace_of_ok`, `Inliner.disk_syncInPlace_of_error` — the disk then: the updated text is written,
  and after a failure nothing is.
* `Inliner.overwrites_syncInPlace`, `Inliner.readBytes_syncInPlace` — the document is overwritten, and reads as the
  updated text.
* `Invocation.run_plain` — **a plain run is a sync in place** of its file.
-/

namespace SnippetSync

namespace Inliner

variable {i : Inliner} {d : Disk} {p : Path} {sink : Sink} {u : Update}

theorem result_sync_eq_ok_iff : (i.sync d p sink).result = .ok u ↔ ∃ t, d.readText p = .ok t ∧
    ((Document.scan i.scanner t 0).inline d.readText i.base sink).result = .ok u := by
  unfold sync readDocument
  cases hread : d.readText p with
  | error fault => simp [Except.mapError]
  | ok t => simp [Except.mapError]

theorem syncInPlace_of_write {d' : Disk} (h : (i.sync d p sink).result = .ok u) (hw : d.writeText p u.text = .ok d') :
    (i.syncInPlace d p sink).1 = d' ∧ (i.syncInPlace d p sink).2.result = .ok u := by
  have hwrite : u.writeTo d p = .ok d' := by
    unfold Update.writeTo
    rw [hw]
    rfl
  unfold syncInPlace
  simp only [h, hwrite]
  exact ⟨trivial, trivial⟩

theorem syncInPlace_of_no_write (h : ∀ u d', (i.sync d p sink).result = .ok u → d.writeText p u.text ≠ .ok d') :
    (i.syncInPlace d p sink).1 = d ∧ ∀ u, (i.syncInPlace d p sink).2.result ≠ .ok u := by
  unfold syncInPlace
  cases hsync : (i.sync d p sink).result with
  | error failure =>
    simp only [hsync]
    exact ⟨trivial, fun u hu => by cases hu⟩
  | ok u =>
    cases hw : d.writeText p u.text with
    | ok d' => exact absurd hw (h u d' hsync)
    | error fault =>
      have hwrite : u.writeTo d p = .error (.writeDocument p fault) := by
        unfold Update.writeTo
        rw [hw]
        rfl
      simp only [hsync, hwrite]
      exact ⟨trivial, fun u hu => by cases hu⟩

theorem result_syncInPlace_eq_ok_iff : (i.syncInPlace d p sink).2.result = .ok u ↔
    (i.sync d p sink).result = .ok u ∧ ∃ d', d.writeText p u.text = .ok d' := by
  constructor
  · intro h
    by_cases hw : ∃ u d', (i.sync d p sink).result = .ok u ∧ d.writeText p u.text = .ok d'
    · obtain ⟨u', d', hsync, hwrite⟩ := hw
      have hresult := (syncInPlace_of_write hsync hwrite).2
      obtain rfl : u' = u := Except.ok.inj (hresult.symm.trans h)
      exact ⟨hsync, d', hwrite⟩
    · have hno := (syncInPlace_of_no_write fun u' d' hsync hwrite => hw ⟨u', d', hsync, hwrite⟩).2
      exact absurd h (hno u)
  · rintro ⟨hsync, d', hwrite⟩
    exact (syncInPlace_of_write hsync hwrite).2

theorem result_syncInPlace_eq_error_iff {failure : Failure} : (i.syncInPlace d p sink).2.result = .error failure ↔
    (i.sync d p sink).result = .error failure ∨
      ∃ u fault, (i.sync d p sink).result = .ok u ∧ d.writeText p u.text = .error fault ∧
        failure = .writeDocument p fault := by
  unfold syncInPlace Update.writeTo
  cases hsync : (i.sync d p sink).result with
  | error failure' => simp [hsync]
  | ok u =>
    cases hw : d.writeText p u.text with
    | ok d' => simp [hsync, hw, Except.mapError]
    | error fault =>
      simp only [hsync, hw, Except.mapError, reduceCtorEq, false_or, Except.ok.injEq, Except.error.injEq]
      constructor
      · rintro rfl
        exact ⟨u, fault, rfl, hw, rfl⟩
      · rintro ⟨u', fault', rfl, hw', rfl⟩
        obtain rfl := Except.error.inj (hw.symm.trans hw')
        rfl

theorem disk_syncInPlace_of_ok (h : (i.syncInPlace d p sink).2.result = .ok u) :
    d.writeText p u.text = .ok (i.syncInPlace d p sink).1 := by
  obtain ⟨hsync, d', hwrite⟩ := result_syncInPlace_eq_ok_iff.1 h
  rw [(syncInPlace_of_write hsync hwrite).1]
  exact hwrite

theorem disk_syncInPlace_of_error (h : ∀ u, (i.syncInPlace d p sink).2.result ≠ .ok u) :
    (i.syncInPlace d p sink).1 = d := by
  have hno : ∀ u d', (i.sync d p sink).result = .ok u → d.writeText p u.text ≠ .ok d' := by
    intro u d' hsync hwrite
    exact h u (syncInPlace_of_write hsync hwrite).2
  exact (syncInPlace_of_no_write hno).1

theorem exists_readText_of_syncInPlace (h : (i.syncInPlace d p sink).2.result = .ok u) :
    ∃ t, d.readText p = .ok t := by
  obtain ⟨hsync, -⟩ := result_syncInPlace_eq_ok_iff.1 h
  obtain ⟨t, ht, -⟩ := result_sync_eq_ok_iff.1 hsync
  exact ⟨t, ht⟩

/-- A sync in place of a document that can be read succeeds just if its text is inlined and can be written. -/
theorem result_syncInPlace_of_readText {t : Text} (hp : d.readText p = .ok t) :
    (i.syncInPlace d p sink).2.result = .ok u ↔
      ((Document.scan i.scanner t 0).inline d.readText i.base sink).result = .ok u ∧
        ∃ d', d.writeText p u.text = .ok d' := by
  rw [result_syncInPlace_eq_ok_iff, result_sync_eq_ok_iff]
  constructor
  · rintro ⟨⟨t', ht, hu⟩, hwrite⟩
    obtain rfl : t = t' := Except.ok.inj (hp.symm.trans ht)
    exact ⟨hu, hwrite⟩
  · rintro ⟨hu, hwrite⟩
    exact ⟨⟨t, hp, hu⟩, hwrite⟩

theorem before_of_syncInPlace {t : Text} (hp : d.readText p = .ok t) (h : (i.syncInPlace d p sink).2.result = .ok u) :
    u.before = t := by
  have hinline := ((result_syncInPlace_of_readText hp).1 h).1
  exact (Document.inline_eq_ok hinline).2.2.1

/-! ### The standard form -/

section Standard

variable {base : Path}

theorem inline_nil {id : Nat} {read : Reader}
    (h : ((Document.scan .standard [] id).inline read base sink).result = .ok u) : u.text = [] := by
  obtain ⟨-, -, rfl⟩ := Outline.inline_eq_ok Outline.wellFormed_nil h
  rfl

theorem overwrites_syncInPlace (h : (syncInPlace ⟨.standard, base⟩ d p sink).2.result = .ok u) :
    d.Overwrites p u.text (syncInPlace ⟨.standard, base⟩ d p sink).1 := by
  obtain ⟨t, ht⟩ := exists_readText_of_syncInPlace h
  exact Disk.overwrites_of_writeText ht (disk_syncInPlace_of_ok h)

/-- A document that is empty stays so, which is why it may be a device that swallows what is written. -/
theorem text_eq_nil_of_syncInPlace (h : (syncInPlace ⟨.standard, base⟩ d p sink).2.result = .ok u)
    (hp : d.readText p = .ok []) : u.text = [] :=
  inline_nil ((result_syncInPlace_of_readText hp).1 h).1

theorem readBytes_syncInPlace (h : (syncInPlace ⟨.standard, base⟩ d p sink).2.result = .ok u) :
    (syncInPlace ⟨.standard, base⟩ d p sink).1.readBytes p = .ok u.text.bytes :=
  (overwrites_syncInPlace h).readBytes_of_eq (text_eq_nil_of_syncInPlace h)

end Standard

end Inliner

namespace Invocation

variable {i : Invocation} {o : Options}

/-- **A plain run is a sync in place**: it leaves the same disk, and its code is zero just if the sync succeeds. -/
theorem run_plain (h : Request.parse i.arguments = .ok (.run o)) (hc : o.check = false) (hl : o.list = false)
    (d : Disk) (stdout : Sink) :
    (i.run d stdout).1 =
        (Inliner.standard.syncInPlace d o.file (if o.quiet then Sink.unlimited else stdout)).1 ∧
      ((i.run d stdout).2.code = 0 ↔ ∃ u,
        (Inliner.standard.syncInPlace d o.file (if o.quiet then Sink.unlimited else stdout)).2.result = .ok u) := by
  obtain ⟨f, warnings, hplan⟩ := exists_plan h d.readText stdout
  unfold run
  rw [hplan]
  have hplans := @Options.plan_plain o f d.readText stdout hc hl
  obtain ⟨t, u, success, fault, ht, hu, hwrite, hcode, hfault⟩ | ⟨hfail, r, hr, hcode⟩ := hplans
  · have hsync : (Inliner.standard.sync d o.file (if o.quiet then Sink.unlimited else stdout)).result = .ok u :=
      Inliner.result_sync_eq_ok_iff.2 ⟨t, ht, hu⟩
    rw [hwrite, Plan.after, Plan.carryOut]
    cases hw : d.writeText o.file u.text with
    | ok d' =>
      obtain ⟨hdisk, hresult⟩ := Inliner.syncInPlace_of_write hsync hw
      rw [hdisk, hresult]
      exact ⟨rfl, ⟨fun _ => ⟨u, rfl⟩, fun _ => hcode⟩⟩
    | error x =>
      have hno : ∀ u' d', (Inliner.standard.sync d o.file (if o.quiet then Sink.unlimited else stdout)).result =
          .ok u' → d.writeText o.file u'.text ≠ .ok d' := by
        intro u' d' hsync' hw'
        obtain rfl : u = u' := Except.ok.inj (hsync.symm.trans hsync')
        rw [hw] at hw'
        cases hw'
      obtain ⟨hdisk, hresult⟩ := Inliner.syncInPlace_of_no_write hno
      refine ⟨hdisk.symm, ?_, ?_⟩
      · intro hzero
        have hone : (fault x).code = 0 := hzero
        rw [hfault x] at hone
        cases hone
      · rintro ⟨u', hu'⟩
        exact absurd hu' (hresult u')
  · rw [hr, Plan.after, Plan.carryOut]
    have hno : ∀ u d', (Inliner.standard.sync d o.file (if o.quiet then Sink.unlimited else stdout)).result =
        .ok u → d.writeText o.file u.text ≠ .ok d' := by
      intro u d' hsync
      obtain ⟨t, ht, hu⟩ := Inliner.result_sync_eq_ok_iff.1 hsync
      exact absurd hu (hfail t u ht)
    obtain ⟨hdisk, hresult⟩ := Inliner.syncInPlace_of_no_write hno
    refine ⟨hdisk.symm, ?_, ?_⟩
    · intro hzero
      have hone : r.code = 0 := hzero
      rw [hcode] at hone
      cases hone
    · rintro ⟨u', hu'⟩
      exact absurd hu' (hresult u')

end Invocation

end SnippetSync
