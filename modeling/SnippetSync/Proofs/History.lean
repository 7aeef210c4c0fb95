import SnippetSync.Proofs.InPlace
import SnippetSync.Proofs.Rescan

/-!
# Histories

A document that is synced in place again and again, while its sources change in between, holds at any time what the
last sync would have made of the document as it was at first.

The document on the disk changes, but its frame does not: what stands around the bodies of its blocks. To fill an
outline uses its frame only, and a filling without fences is found again as it was made, so each sync fills the first
frame.

* `Event`, `History.after` — changes of the disk and syncs, and the disk after some of them.
* `History.Admissible` — changes leave the document as it is; at a sync it can be written, and no source read has a
  fence.
* `Outline.SameFrame`, `Disk.Holds` — the invariant: the document on the disk has the frame of the first one.
* `Disk.Holds.syncInPlace`, `Disk.Holds.after` — one sync keeps it, and hence every history does.
* `history_independence` — each sync in a history comes to what it would come to with the first document.
-/

namespace SnippetSync

/-- What happens to a disk. -/
inductive Event
  /-- Files are changed, and this is the disk then. -/
  | change (d : Disk)
  | sync (sink : Sink)

namespace History

def step (base p : Path) (d : Disk) : Event → Disk
  | .change d' => d'
  | .sync sink => (Inliner.syncInPlace ⟨.standard, base⟩ d p sink).1

def after (base p : Path) (d : Disk) (es : List Event) : Disk := es.foldl (step base p) d

/-- Changes leave the document as it is. At a sync the document can be written and the sink takes everything, and if it
succeeds no source has a fence. -/
inductive Admissible (base p : Path) : Disk → List Event → Prop
  | nil (d : Disk) : Admissible base p d []
  | change {d d' : Disk} {es : List Event} (same : d'.readBytes p = d.readBytes p) (rest : Admissible base p d' es) :
      Admissible base p d (.change d' :: es)
  | sync {d : Disk} {sink : Sink} {es : List Event} (takes : sink.limit = none)
      (writable : ∀ t, ∃ d', d.writeText p t = .ok d')
      (fenceFree : ∀ u, (Inliner.syncInPlace ⟨.standard, base⟩ d p sink).2.result = .ok u →
        Reader.FenceFree d.readText base u.before)
      (rest : Admissible base p (Inliner.syncInPlace ⟨.standard, base⟩ d p sink).1 es) :
      Admissible base p d (.sync sink :: es)

end History

/-! ## Frames -/

/-- The outlines differ in the bodies of their blocks only. -/
def Outline.SameFrame (ω ω' : Outline) : Prop := ∀ contents, ω'.fill contents = ω.fill contents

namespace Outline.SameFrame

variable {ω ω' : Outline} (h : ω.SameFrame ω')
include h

theorem sources : ω'.sources = ω.sources := by
  have hfill := congrArg Outline.sources (h fun _ => [])
  rwa [sources_fill, sources_fill] at hfill

theorem fill (contents : Path → Text) : ω.SameFrame (ω'.fill contents) := by
  intro contents'
  rw [fill_fill]
  exact h contents'

end Outline.SameFrame

/-- The disk holds a document with the frame of the outline. -/
def Disk.Holds (d : Disk) (p : Path) (ω : Outline) : Prop :=
  ∃ ω' : Outline, ω'.WellFormed ∧ ω.SameFrame ω' ∧ d.readText p = .ok ω'.text

namespace Disk.Holds

variable {d : Disk} {base p : Path} {ω : Outline} {sink : Sink} {id : Nat}

theorem change {d' : Disk} (h : d.Holds p ω) (hsame : d'.readBytes p = d.readBytes p) : d'.Holds p ω := by
  obtain ⟨ω', hω', hframe, hp⟩ := h
  refine ⟨ω', hω', hframe, ?_⟩
  unfold readText at hp ⊢
  rw [hsame]
  exact hp

/-- **One sync**: it comes to what it would come to with the first document. -/
theorem result_syncInPlace (h : d.Holds p ω) (hω : ω.WellFormed) (hwrite : ∀ t, ∃ d', d.writeText p t = .ok d')
    {t : Text} : (∃ u, (Inliner.syncInPlace ⟨.standard, base⟩ d p sink).2.result = .ok u ∧ u.text = t) ↔
      ∃ u, ((Document.scan .standard ω.text id).inline d.readText base sink).result = .ok u ∧ u.text = t := by
  obtain ⟨ω', hω', hframe, hp⟩ := h
  have htext : (ω'.update (Reader.contents d.readText base)).text = (ω.update (Reader.contents d.readText base)).text :=
    congrArg Outline.text (hframe _)
  have hannounce : ω'.announcements = ω.announcements := by
    rw [Outline.announcements, Outline.announcements, hframe.sources]
  constructor
  · rintro ⟨u, hu, rfl⟩
    have hinline := ((Inliner.result_syncInPlace_of_readText hp).1 hu).1
    obtain ⟨hread, htakes, rfl⟩ := Outline.inline_eq_ok hω' hinline
    rw [hframe.sources] at hread
    rw [hannounce] at htakes
    exact ⟨_, (Outline.inline_eq_ok_iff hω).2 ⟨hread, htakes, rfl⟩, htext.symm⟩
  · rintro ⟨u, hu, rfl⟩
    obtain ⟨hread, htakes, rfl⟩ := Outline.inline_eq_ok hω hu
    rw [← hframe.sources] at hread
    rw [← hannounce] at htakes
    have hinline : ((Document.scan .standard ω'.text 0).inline d.readText base sink).result =
        .ok (ω'.update (Reader.contents d.readText base)) :=
      (Outline.inline_eq_ok_iff hω').2 ⟨hread, htakes, rfl⟩
    exact ⟨_, (Inliner.result_syncInPlace_of_readText hp).2 ⟨hinline, hwrite _⟩, htext⟩

theorem syncInPlace (h : d.Holds p ω) (hfree : ∀ u, (Inliner.syncInPlace ⟨.standard, base⟩ d p sink).2.result = .ok u →
    Reader.FenceFree d.readText base u.before) :
    (Inliner.syncInPlace ⟨.standard, base⟩ d p sink).1.Holds p ω := by
  by_cases hok : ∃ u, (Inliner.syncInPlace ⟨.standard, base⟩ d p sink).2.result = .ok u
  · obtain ⟨u, hu⟩ := hok
    have hbytes := Inliner.readBytes_syncInPlace hu
    have hfree := hfree u hu
    obtain ⟨ω', hω', hframe, hp⟩ := h
    have hinline := ((Inliner.result_syncInPlace_of_readText hp).1 hu).1
    obtain ⟨hread, -, rfl⟩ := Outline.inline_eq_ok hω' hinline
    have hwf := hω'.fill ((Outline.fenceFree_iff hω' hread).1 hfree)
    exact ⟨_, hwf, hframe.fill _, Disk.readText_of_readBytes hbytes⟩
  · rw [Inliner.disk_syncInPlace_of_error fun u hu => hok ⟨u, hu⟩]
    exact h

/-- **Every history keeps the frame.** -/
theorem after (h : d.Holds p ω) {es es' : List Event} (hes : History.Admissible base p d (es ++ es')) :
    (History.after base p d es).Holds p ω ∧ History.Admissible base p (History.after base p d es) es' := by
  induction es generalizing d with
  | nil => exact ⟨h, hes⟩
  | cons e es ih =>
    cases hes with
    | change hsame hrest => exact ih (h.change hsame) hrest
    | sync htakes hwritable hfree hrest => exact ih (h.syncInPlace hfree) hrest

end Disk.Holds

/-- **History independence.** Whatever was synced and changed before, a sync in place of a document succeeds just if the
inlining of the document as it was at first does so on the disk of that moment, and then the document holds just what
this inlining makes. A sync that fails leaves the disk as it is. -/
theorem history_independence {base p : Path} {d₀ : Disk} {t : Text} (hp : d₀.readText p = .ok t) {es es' : List Event}
    {sink : Sink} (h : History.Admissible base p d₀ (es ++ .sync sink :: es')) (id : Nat) :
    let d := History.after base p d₀ es
    let run := Inliner.syncInPlace ⟨.standard, base⟩ d p sink
    let first := ((Document.scan .standard t id).inline d.readText base sink).result
    ((∃ u, run.2.result = .ok u) ↔ ∃ u, first = .ok u) ∧
      (∀ u, first = .ok u → run.1.readBytes p = .ok u.text.bytes) ∧
      ((∀ u, run.2.result ≠ .ok u) → run.1 = d) := by
  obtain ⟨ω, hω, rfl⟩ := Outline.exists_of_text t
  have hfirst : d₀.Holds p ω := ⟨ω, hω, fun _ => rfl, hp⟩
  obtain ⟨hholds, hrest⟩ := hfirst.after h
  have hwrite : ∀ t, ∃ d', (History.after base p d₀ es).writeText p t = .ok d' := by
    cases hrest with
    | sync _ hwrite _ _ => exact hwrite
  have hresult : ∀ t, (∃ u, (Inliner.syncInPlace ⟨.standard, base⟩ (History.after base p d₀ es) p sink).2.result =
      .ok u ∧ u.text = t) ↔ ∃ u, ((Document.scan .standard ω.text id).inline
        (History.after base p d₀ es).readText base sink).result = .ok u ∧ u.text = t :=
    fun t => hholds.result_syncInPlace hω hwrite
  refine ⟨⟨?_, ?_⟩, ?_, Inliner.disk_syncInPlace_of_error⟩
  · rintro ⟨u, hu⟩
    obtain ⟨u', hu', -⟩ := (hresult u.text).1 ⟨u, hu, rfl⟩
    exact ⟨u', hu'⟩
  · rintro ⟨u, hu⟩
    obtain ⟨u', hu', -⟩ := (hresult u.text).2 ⟨u, hu, rfl⟩
    exact ⟨u', hu'⟩
  · intro u hu
    obtain ⟨u', hu', htext⟩ := (hresult u.text).2 ⟨u, hu, rfl⟩
    rw [← htext]
    exact Inliner.readBytes_syncInPlace hu'

/-- The disk after a sync, and after another change of a source then. -/
def refreshedDisk : Disk :=
  ⟨[], [([("README.md" : Text)], .file refreshedText.bytes), ([("x" : Text)], .file (Text.bytes "345")),
    ([("y" : Text)], .file (Text.bytes "12"))]⟩

theorem history_independence_of_swapped :
    History.Admissible [] "README.md" swappedDisk
      ([.sync Sink.unlimited, .change refreshedDisk] ++ [.sync Sink.unlimited]) ∧
    ∃ u, ((Document.scan .standard swappedText 0).inline refreshedDisk.readText [] Sink.unlimited).result = .ok u ∧
      (Inliner.syncInPlace ⟨.standard, []⟩ refreshedDisk "README.md" Sink.unlimited).1.readBytes "README.md" =
        .ok u.text.bytes := by
  have hread : swappedDisk.readText "README.md" = .ok swappedText := Disk.readText_of_readBytes rfl
  have hread' : refreshedDisk.readText "README.md" = .ok refreshedText := Disk.readText_of_readBytes rfl
  have hsynced : (Inliner.syncInPlace ⟨.standard, []⟩ swappedDisk "README.md" Sink.unlimited).1.contents?
      "README.md" = some refreshedText.bytes := by decide +kernel
  have hadmissible : History.Admissible [] "README.md" swappedDisk
      ([.sync Sink.unlimited, .change refreshedDisk] ++ [.sync Sink.unlimited]) := by
    refine .sync rfl (fun t => ⟨_, rfl⟩) ?_ (.change ?_ (.sync rfl (fun t => ⟨_, rfl⟩) ?_ (.nil _)))
    · intro u hu
      rw [Inliner.before_of_syncInPlace hread hu]
      exact Reader.fenceFree_of_splitFirst? (by decide +kernel)
    · exact (Disk.readBytes_of_contents? hsynced).symm
    · intro u hu
      rw [Inliner.before_of_syncInPlace hread' hu]
      exact Reader.fenceFree_of_splitFirst? (by decide +kernel)
  obtain ⟨u, hu⟩ : ∃ u, ((Document.scan .standard swappedText 0).inline refreshedDisk.readText []
      Sink.unlimited).result = .ok u := exists_of_isOk (by decide +kernel)
  exact ⟨hadmissible, u, hu, (history_independence hread hadmissible 0).2.1 u hu⟩

end SnippetSync
