import SnippetSync.Disk.Access

/-!
# Overwriting a file

A file that can be read and is overwritten is the only thing that changes on the disk, and it reads as what was written.

* `Disk.SameShape` — directories, other things and nothing stand at the same places of two disks; then all paths lead
  to the same places.
* `Disk.Overwrites` — a disk after the file at a place is overwritten.
* `Disk.overwrites_of_writeText` — what a write does to the disk, if the file could be read before.
* `Disk.Overwrites.readText_of_ne`, `Disk.Overwrites.readBytes_of_eq`, `Disk.Overwrites.readText_or` — what is read
  afterwards, elsewhere, there, and at any path.
* `Disk.Overwrites.writeText` — the file can be overwritten once more.
-/

namespace SnippetSync

def Node.isDirectory : Node → Bool
  | directory => true
  | _ => false

namespace Disk

/-! ## The shape of a disk -/

/-- Directories, other things and nothing stand at the same places. -/
structure SameShape (d d' : Disk) : Prop where
  home : d'.home = d.home
  node : ∀ l, (d'.node? l).map Node.isDirectory = (d.node? l).map Node.isDirectory

namespace SameShape

theorem refl (d : Disk) : SameShape d d := ⟨rfl, fun _ => rfl⟩

variable {d d' : Disk} (h : SameShape d d')
include h

theorem trans {d'' : Disk} (h' : SameShape d' d'') : SameShape d d'' :=
  ⟨h'.home.trans h.home, fun l => (h'.node l).trans (h.node l)⟩

theorem origin (p : Path) : d'.origin p = d.origin p := by
  simp only [Disk.origin, h.home]

theorem isSome (l : Location) : (d'.node? l).isSome = (d.node? l).isSome := by
  have := congrArg Option.isSome (h.node l)
  simpa using this

theorem requireDirectory (l : Location) : d'.requireDirectory l = d.requireDirectory l := by
  have hl := h.node l
  unfold Disk.requireDirectory
  cases hn : d.node? l with
  | none =>
    rw [hn, Option.map_none, Option.map_eq_none_iff] at hl
    rw [hl]
  | some n =>
    rw [hn, Option.map_some, Option.map_eq_some_iff] at hl
    obtain ⟨n', hn', hdir⟩ := hl
    rw [hn']
    cases n <;> cases n' <;> simp_all [Node.isDirectory]

theorem enter (l : Location) (name : Text) : d'.enter l name = d.enter l name := by
  have hl := h.isSome (l ++ [name])
  unfold Disk.enter
  rw [h.requireDirectory]
  cases hn : d.node? (l ++ [name]) <;> cases hn' : d'.node? (l ++ [name]) <;> simp_all

theorem walk (l : Location) (names : List Text) : d'.walk l names = d.walk l names := by
  unfold Disk.walk
  rw [show d'.enter = d.enter from funext fun l => funext fun name => h.enter l name]

theorem resolve (p : Path) : d'.resolve p = d.resolve p := by
  unfold Disk.resolve
  rw [h.origin]
  simp only [h.walk]

theorem resolveTarget (p : Path) : d'.resolveTarget p = d.resolveTarget p := by
  unfold Disk.resolveTarget
  rw [h.origin]
  simp only [h.walk, h.requireDirectory]

end SameShape

/-! ## Where a path is written -/

theorem bind_eq_ok {α β : Type} {x : Except Fault α} {f : α → Except Fault β} {b : β} :
    x >>= f = .ok b ↔ ∃ a, x = .ok a ∧ f a = .ok b := by
  cases x with
  | error fault => simp [bind, Except.bind]
  | ok a => simp [bind, Except.bind]

variable {d d' : Disk} {p q : Path} {l : Location} {s t : Text}

/-- A path is written in a directory, under the last of its components. -/
theorem exists_parent (h : d.resolveTarget p = .ok l) : ∃ start names directory, ∃ name : Text,
    d.origin p = .ok start ∧ p.components = names ++ [name] ∧ d.walk start names = .ok directory ∧
      d.requireDirectory directory = .ok () ∧
      (name ≠ ['.'] ∧ name ≠ ['.', '.'] ∧ ¬ nameLimit < name.byteLength) ∧ l = directory ++ [name] := by
  unfold resolveTarget at h
  obtain ⟨start, hstart, h⟩ := bind_eq_ok.1 h
  obtain ⟨directory, hwalk, h⟩ := bind_eq_ok.1 h
  obtain ⟨_, hdir, h⟩ := bind_eq_ok.1 h
  cases hlast : p.pieces.getLast? with
  | none => rw [hlast] at h; cases h
  | some name =>
    rw [hlast] at h
    by_cases hend : (p.endsInSlash || decide (name = ['.']) || decide (name = ['.', '.'])) = true
    · simp only [hend, if_true] at h; cases h
    · by_cases hname : nameLimit < name.byteLength
      · simp only [hend, hname, if_true] at h; cases h
      · simp only [hend, hname, if_false] at h
        simp only [Bool.or_eq_true, decide_eq_true_eq, not_or] at hend
        obtain rfl : directory ++ [name] = l := Except.ok.inj h
        refine ⟨start, p.pieces.dropLast, directory, name, hstart, ?_, hwalk, hdir, ⟨hend.1.2, hend.2, hname⟩, rfl⟩
        obtain ⟨names, hnames⟩ := List.getLast?_eq_some_iff.1 hlast
        rw [Path.components, if_neg hend.1.1, hnames, List.dropLast_concat]

/-- The place at which a path is written is the one to which it leads, if something stands there. -/
theorem resolve_of_resolveTarget (h : d.resolveTarget p = .ok l) :
    d.resolve p = if (d.node? l).isSome then .ok l else .error .notFound := by
  obtain ⟨start, names, directory, name, hstart, hnames, hwalk, hdir, ⟨hdot, hdots, hlen⟩, rfl⟩ := exists_parent h
  have henter : d.enter directory name =
      if (d.node? (directory ++ [name])).isSome then .ok (directory ++ [name]) else .error .notFound := by
    unfold enter
    rw [hdir]
    cases d.node? (directory ++ [name]) <;> simp [bind, Except.bind, hdot, hdots, hlen, pure, Except.pure, throw,
      throwThe, MonadExceptOf.throw]
  have hall : d.walk start (names ++ [name]) = (d.walk start names).bind fun l => d.walk l [name] :=
    List.foldlM_append ..
  unfold resolve
  rw [hstart, hnames]
  change d.walk start (names ++ [name]) = _
  rw [hall, hwalk, ← henter]
  change (d.enter directory name).bind pure = _
  cases d.enter directory name <;> rfl

/-! ## Writes -/

theorem ne_nil_of_file {bytes : List UInt8} (hn : d.node? l = some (.file bytes)) : l ≠ [] := by
  rintro rfl
  rw [node?_nil] at hn
  cases hn

theorem readBytes_congr (h : d.resolve q = d.resolve p) : d.readBytes q = d.readBytes p := by
  unfold readBytes
  rw [h]

theorem readText_congr (h : d.resolve q = d.resolve p) : d.readText q = d.readText p := by
  unfold readText
  rw [readBytes_congr h]

theorem readText_of_readBytes (h : d.readBytes p = .ok (Text.bytes t)) : d.readText p = .ok t := by
  unfold readText
  rw [h]
  simp [bind, Except.bind, pure, Except.pure]

theorem readBytes_of_contents? {bytes : List UInt8} (h : d.contents? p = some bytes) : d.readBytes p = .ok bytes := by
  unfold contents? at h
  cases hread : d.readBytes p with
  | error fault => rw [hread] at h; cases h
  | ok bytes' =>
    rw [hread] at h
    rw [Option.some.inj h]

/-- `d'` is `d` after a text is written to the file to which `p` leads: a file is overwritten, and a device that
swallows what is written leaves everything as it is. -/
inductive Overwrites (d : Disk) (p : Path) (t : Text) : Disk → Prop
  | file (l : Location) (bytes : List UInt8) (hl : d.resolveTarget p = .ok l) (hn : d.node? l = some (.file bytes)) :
      Overwrites d p t (d.insert l (.file t.bytes))
  | device (l : Location) (hl : d.resolveTarget p = .ok l) (hn : d.node? l = some .nullDevice) : Overwrites d p t d

/-- **What a write does** to a disk on which the file can be read. -/
theorem overwrites_of_writeText (hr : d.readText p = .ok s) (hw : d.writeText p t = .ok d') : Overwrites d p t d' := by
  unfold writeText at hw
  obtain ⟨l, hl, hw⟩ := bind_eq_ok.1 hw
  unfold writeNode at hw
  split at hw
  · cases hw
  · rename_i hn
    obtain rfl := Except.ok.inj hw
    exact .device l hl hn
  · cases hw
  · rename_i bytes hn
    obtain rfl := Except.ok.inj hw
    exact .file l bytes hl hn
  · -- nothing stands there, so nothing could have been read
    rename_i hn
    have hresolve := resolve_of_resolveTarget hl
    rw [hn] at hresolve
    unfold readText readBytes at hr
    rw [hresolve] at hr
    cases hr

namespace Overwrites

variable (h : Overwrites d p t d')
include h

theorem sameShape : SameShape d d' := by
  cases h with
  | device => exact .refl d
  | file l bytes hl hn =>
    refine ⟨rfl, fun l' => ?_⟩
    rw [node?_insert]
    by_cases hl' : l' ≠ [] ∧ l' = l
    · rw [if_pos hl', hl'.2, hn]; rfl
    · rw [if_neg hl']

theorem readText_of_ne (hq : d.resolve q ≠ d.resolve p) : d'.readText q = d.readText q := by
  have hshape := h.sameShape
  cases h with
  | device => rfl
  | file l bytes hl hn =>
    unfold readText readBytes
    rw [hshape.resolve]
    cases hresolve : d.resolve q with
    | error fault => rfl
    | ok l' =>
      have hne : l' ≠ l := by
        rintro rfl
        rw [hresolve, resolve_of_resolveTarget hl, hn] at hq
        exact hq rfl
      have hnode : (d.insert l (.file t.bytes)).readNode l' = d.readNode l' := by
        unfold readNode
        rw [node?_insert, if_neg fun hl' => hne hl'.2]
      change ((d.insert l (.file t.bytes)).readNode l' >>= _) = (d.readNode l' >>= _)
      rw [hnode]

theorem readBytes_of_eq (hnil : d.readText p = .ok [] → t = []) : d'.readBytes p = .ok t.bytes := by
  have hresolve := h.sameShape.resolve p
  cases h with
  | device l hl hn =>
    have hbytes : d.readBytes p = .ok [] := by
      unfold readBytes
      rw [resolve_of_resolveTarget hl, hn]
      change d.readNode l = _
      unfold readNode
      rw [hn]
    rw [hnil (readText_of_readBytes hbytes), hbytes, Text.bytes_nil]
  | file l bytes hl hn =>
    have hne := ne_nil_of_file hn
    unfold readBytes
    rw [hresolve, resolve_of_resolveTarget hl, hn]
    change (d.insert l (.file t.bytes)).readNode l = _
    unfold readNode
    rw [node?_insert, if_pos ⟨hne, rfl⟩]

/-- Any path reads as before, or as the file that is overwritten, before and afterwards. -/
theorem readText_or (hnil : d.readText p = .ok [] → t = []) (q : Path) :
    d'.readText q = d.readText q ∨ (d.readText q = d.readText p ∧ d'.readText q = .ok t) := by
  by_cases hq : d.resolve q = d.resolve p
  · right
    have hq' : d'.resolve q = d'.resolve p := by
      rw [h.sameShape.resolve, h.sameShape.resolve, hq]
    refine ⟨readText_congr hq, ?_⟩
    rw [readText_congr hq']
    exact readText_of_readBytes (h.readBytes_of_eq hnil)
  · exact .inl (h.readText_of_ne hq)

theorem writeText (t' : Text) : ∃ d'', d'.writeText p t' = .ok d'' := by
  have hshape := h.sameShape
  cases h with
  | device l hl hn => exact ⟨d, by unfold Disk.writeText; rw [hl]; change d.writeNode l _ = _; rw [writeNode, hn]⟩
  | file l bytes hl hn =>
    have hne := ne_nil_of_file hn
    refine ⟨(d.insert l (.file t.bytes)).insert l (.file t'.bytes), ?_⟩
    unfold Disk.writeText
    rw [hshape.resolveTarget, hl]
    change (d.insert l (.file t.bytes)).writeNode l _ = _
    rw [writeNode, node?_insert, if_pos ⟨hne, rfl⟩]

end Overwrites

end Disk

end SnippetSync
