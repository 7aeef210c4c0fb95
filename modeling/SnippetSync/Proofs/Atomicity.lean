import SnippetSync.Proofs.InPlace

/-!
# A sync in place is one write or nothing

A sync reads files; it has no disk among its results. In place it writes at most once, at its very end, and what it
writes over is the file that it has read. So wherever it fails, in the reading of the document or of a source, in an
announcement or in the write, the disk is as it was; and if it succeeds, one file is another, whatever the sources are,
be it that one of them is the document.

* `Inliner.sync_congr` — a sync sees of a disk only what it reads there.
* `Disk.readText_eq_ok_iff` — what it takes for a path to be read.
* `Disk.Overwrites.node?_of_ne`, `Disk.Overwrites.node?_target` — the places of a disk after a file is overwritten.
* `syncInPlace_atomic` — **all or nothing**, and nothing but the document.
-/

namespace SnippetSync

theorem Inliner.sync_congr {d d' : Disk} (h : d'.readText = d.readText) (i : Inliner) (p : Path) (sink : Sink) :
    i.sync d' p sink = i.sync d p sink := by
  unfold sync
  rw [h]

namespace Disk

variable {d d' : Disk} {p : Path} {l : Location} {s t : Text}

theorem readText_eq_ok_iff : d.readText p = .ok t ↔ ∃ l, d.resolve p = .ok l ∧ d.readNode l = .ok t.bytes := by
  unfold readText readBytes
  simp only [bind_eq_ok]
  constructor
  · rintro ⟨bs, ⟨l, hl, hbs⟩, h⟩
    cases hbytes : Text.ofBytes? bs with
    | none => rw [hbytes] at h; cases h
    | some t' =>
      rw [hbytes] at h
      obtain rfl : t' = t := Except.ok.inj h
      exact ⟨l, hl, Text.ofBytes?_eq_some_iff.1 hbytes ▸ hbs⟩
  · rintro ⟨l, hl, hbs⟩
    exact ⟨t.bytes, ⟨l, hl, hbs⟩, by rw [Text.ofBytes?_bytes]; rfl⟩

namespace Overwrites

theorem node?_target (h : d.Overwrites p t d') (hr : d.readText p = .ok s) (hl : d.resolve p = .ok l) :
    (d.node? l = some (.file s.bytes) ∧ d'.node? l = some (.file t.bytes)) ∨
      (d.node? l = some .nullDevice ∧ s = [] ∧ d' = d) := by
  obtain ⟨l', hl', hbytes⟩ := readText_eq_ok_iff.1 hr
  obtain rfl : l = l' := Except.ok.inj (hl.symm.trans hl')
  cases h with
  | file l' bytes htarget hn =>
    have hresolve := resolve_of_resolveTarget htarget
    rw [hn, hl] at hresolve
    obtain rfl : l = l' := Except.ok.inj hresolve
    left
    unfold readNode at hbytes
    rw [hn] at hbytes
    refine ⟨by rw [hn, Except.ok.inj hbytes], ?_⟩
    rw [node?_insert, if_pos ⟨ne_nil_of_file hn, rfl⟩]
  | device l' htarget hn =>
    have hresolve := resolve_of_resolveTarget htarget
    rw [hn, hl] at hresolve
    obtain rfl : l = l' := Except.ok.inj hresolve
    right
    unfold readNode at hbytes
    rw [hn] at hbytes
    have hnil : s = [] := Text.bytes_injective (Except.ok.inj hbytes).symm
    exact ⟨hn, hnil, rfl⟩

theorem node?_of_ne (h : d.Overwrites p t d') (hl : d.resolve p = .ok l) {l' : Location} (hne : l' ≠ l) :
    d'.node? l' = d.node? l' := by
  cases h with
  | device => rfl
  | file l'' bytes htarget hn =>
    have hresolve := resolve_of_resolveTarget htarget
    rw [hn, hl] at hresolve
    obtain rfl : l = l'' := Except.ok.inj hresolve
    rw [node?_insert, if_neg fun h => hne h.2]

end Overwrites

end Disk

/-- **All or nothing.** A sync depends only on what can be read on the disk; that it writes nothing is in its type,
which has no disk among its results. A sync in place that fails, for whatever reason, leaves the disk as it is. If it
succeeds, with the update that a sync without a write comes to, the path leads to a file that held the text before and
holds the text of the update now. Every other place is as it was, so that no file is made and none is lost. Only a
device that swallows what is written stays as it is. -/
theorem syncInPlace_atomic (i : Inliner) (d : Disk) (p : Path) (sink : Sink) :
    (∀ d' : Disk, d'.readText = d.readText → i.sync d' p sink = i.sync d p sink) ∧
    (∀ failure, (i.syncInPlace d p sink).2.result = .error failure → (i.syncInPlace d p sink).1 = d) ∧
    (∀ u, (i.syncInPlace d p sink).2.result = .ok u →
      (i.sync d p sink).result = .ok u ∧
      d.SameShape (i.syncInPlace d p sink).1 ∧
      ∃ l, d.resolve p = .ok l ∧ (i.syncInPlace d p sink).1.resolve p = .ok l ∧
        (∀ l', l' ≠ l → (i.syncInPlace d p sink).1.node? l' = d.node? l') ∧
        ((d.node? l = some (.file u.before.bytes) ∧
            (i.syncInPlace d p sink).1.node? l = some (.file u.text.bytes)) ∨
          (d.node? l = some .nullDevice ∧ u.before = [] ∧ (i.syncInPlace d p sink).1 = d))) := by
  refine ⟨fun d' h => i.sync_congr h p sink, fun failure h => ?_, fun u h => ?_⟩
  · apply Inliner.disk_syncInPlace_of_error
    intro u hu
    rw [hu] at h
    cases h
  · obtain ⟨t, ht⟩ := Inliner.exists_readText_of_syncInPlace h
    have hw := Disk.overwrites_of_writeText ht (Inliner.disk_syncInPlace_of_ok h)
    rw [← Inliner.before_of_syncInPlace ht h] at ht
    obtain ⟨l, hl, -⟩ := Disk.readText_eq_ok_iff.1 ht
    refine ⟨(Inliner.result_syncInPlace_eq_ok_iff.1 h).1, hw.sameShape, l, hl, ?_, fun l' => hw.node?_of_ne hl,
      hw.node?_target ht hl⟩
    rw [hw.sameShape.resolve, hl]

/-- A document with a block whose source is the document. -/
def mirrorText : Text := "```md {source=README.md}\n```\n"

def mirrorDisk : Disk := ⟨[], [([("README.md" : Text)], .file mirrorText.bytes)]⟩

/-- The same document, which cannot be written. -/
def lockedMirrorDisk : Disk := mirrorDisk.insert [("README.md" : Text)] (.readOnly mirrorText.bytes)

theorem readText_lockedMirrorDisk : lockedMirrorDisk.readText = mirrorDisk.readText := by
  have hnode : ∀ l, lockedMirrorDisk.node? l = mirrorDisk.node? l ∨
      (lockedMirrorDisk.node? l = some (.readOnly mirrorText.bytes) ∧
        mirrorDisk.node? l = some (.file mirrorText.bytes)) := by
    intro l
    rw [lockedMirrorDisk, Disk.node?_insert]
    by_cases hl : l ≠ [] ∧ l = [("README.md" : Text)]
    · rw [if_pos hl, hl.2]
      exact .inr ⟨rfl, rfl⟩
    · rw [if_neg hl]
      exact .inl rfl
  have hshape : mirrorDisk.SameShape lockedMirrorDisk := by
    refine ⟨rfl, fun l => ?_⟩
    rcases hnode l with h | ⟨hlocked, hfile⟩
    · rw [h]
    · rw [hlocked, hfile]
      rfl
  have hbytes : lockedMirrorDisk.readNode = mirrorDisk.readNode := by
    funext l
    unfold Disk.readNode
    rcases hnode l with h | ⟨hlocked, hfile⟩
    · rw [h]
    · rw [hlocked, hfile]
  funext p
  unfold Disk.readText Disk.readBytes
  rw [hshape.resolve, hbytes]

theorem syncInPlace_atomic_of_mirror :
    Inliner.standard.sync lockedMirrorDisk "README.md" Sink.unlimited =
      Inliner.standard.sync mirrorDisk "README.md" Sink.unlimited ∧
    (Inliner.standard.syncInPlace lockedMirrorDisk "README.md" Sink.unlimited).2.result =
      .error (.writeDocument "README.md" .permissionDenied) ∧
    (Inliner.standard.syncInPlace lockedMirrorDisk "README.md" Sink.unlimited).1 = lockedMirrorDisk ∧
    ∃ u, (Inliner.standard.syncInPlace mirrorDisk "README.md" Sink.unlimited).2.result = .ok u ∧
      (Inliner.standard.sync mirrorDisk "README.md" Sink.unlimited).result = .ok u ∧
      ∃ l, mirrorDisk.resolve "README.md" = .ok l ∧ ∀ l', l' ≠ l →
        (Inliner.standard.syncInPlace mirrorDisk "README.md" Sink.unlimited).1.node? l' = mirrorDisk.node? l' := by
  have hlocked : (Inliner.standard.syncInPlace lockedMirrorDisk "README.md" Sink.unlimited).2.result =
      .error (.writeDocument "README.md" .permissionDenied) := rfl
  obtain ⟨u, hu⟩ : ∃ u, (Inliner.standard.syncInPlace mirrorDisk "README.md" Sink.unlimited).2.result = .ok u :=
    exists_of_isOk (by decide +kernel)
  obtain ⟨-, hfail, -⟩ := syncInPlace_atomic Inliner.standard lockedMirrorDisk "README.md" Sink.unlimited
  obtain ⟨hcongr, -, hok⟩ := syncInPlace_atomic Inliner.standard mirrorDisk "README.md" Sink.unlimited
  obtain ⟨hsync, -, l, hl, -, hframe, -⟩ := hok u hu
  exact ⟨hcongr _ readText_lockedMirrorDisk, hlocked, hfail _ hlocked, u, hu, hsync, l, hl, hframe⟩

end SnippetSync
