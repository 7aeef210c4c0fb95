import SnippetSync.Proofs.PlainRun
import SnippetSync.Proofs.Staleness
import SnippetSync.Proofs.WrittenForm

/-!
# Listings

A listing has a line for each block, with the number of its line, its language and its source. The line has no quotes
around its parts, and a path may have any blanks in it; still the parts can be told from each other, for no number and
no language has a space in it, and no path a line feed.

* `Text.count_bytes` — line feeds are counted alike in characters and in bytes.
* `Entry` — what a listing tells of a block, and `Text.entries`, what it tells of a document.
* `Text.lineOf?_eq`, `Text.pairwise_entries` — every block has a line, and each is on a later line than the one before.
* `Entry.text_append_inj`, `Entry.listing_injective` — one line, and all lines, can be read back.
* `Sink.accepted_of_writeLines` — a sink that takes lines takes nothing else.
* `Options.plan_listing`, `Progress.writeLines_of_visitAll` — what a listing writes, and what an inlining announces.
* `listing_faithful` — **a listing tells of just the blocks that are inlined**, and nothing else can be read in it.
-/

namespace SnippetSync

/-! ## Line feeds in bytes -/

namespace Text

def lineFeed : UInt8 := 10

theorem lineFeed_notMem_utf8EncodeChar {c : Char} (hc : c ≠ '\n') : lineFeed ∉ String.utf8EncodeChar c := by
  have hv : c.val.toNat ≠ 10 := fun h => hc (Char.ext (UInt32.toNat_inj.1 h))
  have hbyte : ∀ n, n < 256 → n ≠ 10 → lineFeed ≠ UInt8.ofNat n := by
    intro n hlt hne h
    have hn := congrArg UInt8.toNat h
    simp only [UInt8.toNat_ofNat', lineFeed, UInt8.reduceToNat] at hn
    omega
  have hlater : ∀ m, lineFeed ≠ UInt8.ofNat (m % 64 + 128) := fun m => hbyte _ (by omega) (by omega)
  unfold String.utf8EncodeChar
  generalize c.val.toNat = v at hv
  dsimp only
  split
  · simpa using hbyte v (by omega) hv
  · split
    · simp only [List.mem_cons, List.not_mem_nil, or_false, not_or]
      exact ⟨hbyte _ (by omega) (by omega), hlater _⟩
    · split
      · simp only [List.mem_cons, List.not_mem_nil, or_false, not_or]
        exact ⟨hbyte _ (by omega) (by omega), hlater _, hlater _⟩
      · simp only [List.mem_cons, List.not_mem_nil, or_false, not_or]
        exact ⟨hbyte _ (by omega) (by omega), hlater _, hlater _, hlater _⟩

theorem count_bytes (t : Text) : t.bytes.count lineFeed = t.count '\n' := by
  induction t with
  | nil => rfl
  | cons c t ih =>
    have hcons : bytes (c :: t) = String.utf8EncodeChar c ++ bytes t := rfl
    have hchar : (String.utf8EncodeChar c).count lineFeed = if c = '\n' then 1 else 0 := by
      split
      · rename_i hc
        rw [hc]
        rfl
      · rename_i hc
        exact List.count_eq_zero.2 (lineFeed_notMem_utf8EncodeChar hc)
    rw [hcons, List.count_append, hchar, ih, List.count_cons, Nat.add_comm]
    simp

theorem take_bytes_of_append (u v : Text) : (bytes (u ++ v)).take u.byteLength = u.bytes := by
  rw [bytes_append, List.take_left' (length_bytes u)]

/-- On a character boundary an offset falls on the line after the line feeds before it. -/
theorem lineOf?_eq {t : Text} {offset : Nat} (h : t.IsBoundary offset) :
    t.lineOf? offset = some (1 + (t.bytes.take offset).count lineFeed) := by
  obtain ⟨u, v, rfl, rfl⟩ := isBoundary_iff.1 h
  rw [lineOf?_append, take_bytes_of_append, count_bytes, lineAfter, Nat.add_comm]

end Text

/-! ## Entries -/

/-- What a listing tells of a block. -/
structure Entry where
  line : Nat
  language : Text
  source : Path
  deriving DecidableEq, Repr

/-- The entry of a block: its line, which is one and the line feeds before the block, its language and its source. -/
def Block.entry (t : Text) (b : Block) : Entry :=
  ⟨1 + (t.bytes.take b.span.start).count Text.lineFeed, b.language, b.source⟩

def Text.entries (t : Text) : List Entry := t.blocks.map (Block.entry t)

namespace Entry

def text (name : Text) (e : Entry) : Text :=
  Text.concat [name, ":", Text.ofNat e.line, "  ", e.language, "  ", e.source, "\n"]

def listing (name : Text) (es : List Entry) : Text := Text.concat (es.map (text name))

def announcement (e : Entry) : Text := Text.concat ["inlined ", e.source, "\n"]

/-- The language has no blank, and the source no line feed. -/
structure Proper (e : Entry) : Prop where
  language : ∀ c ∈ e.language, Text.isBlank c = false
  source : '\n' ∉ e.source

end Entry

theorem Block.lineOf?_start {t : Text} {b : Block} (hb : b ∈ t.blocks) :
    t.lineOf? b.span.start = some (b.entry t).line :=
  Text.lineOf?_eq (Scanner.located_blocks .standard t b hb).span.start

theorem Block.proper_entry {t : Text} {b : Block} (hb : b ∈ t.blocks) : (b.entry t).Proper := by
  have hstands := standsIn_of_mem_blocks hb
  exact ⟨hstands.language.clear, fun hc => (hstands.source '\n' hc).2 rfl⟩

/-- A block that begins behind another one is on a later line, for an opening ends in a line feed. -/
theorem Block.line_lt {t : Text} {b b' : Block} (hb : b ∈ t.blocks) (hb' : b' ∈ t.blocks)
    (hle : b.span.stop ≤ b'.span.start) : (b.entry t).line < (b'.entry t).line := by
  have hstands := standsIn_of_mem_blocks hb
  obtain ⟨gap, closed, carriage, -, hopening⟩ := hstands.opening
  have hfeed : '\n' ∈ b.opening ++ b.body ++ fence := by
    have : '\n' ∈ lineEnd carriage := by cases carriage <;> decide
    simp [hopening, this]
  obtain ⟨u, v, ht, hu, hw⟩ := Text.slice?_eq_some_iff.1 hstands.span
  generalize b.opening ++ b.body ++ fence = w at hfeed ht hw
  obtain ⟨u', v', ht', hu'⟩ := Text.isBoundary_iff.1 (Scanner.located_blocks .standard t b' hb').span.start
  have hcut : t.cut? b.span.stop = some (u ++ w, v) := Text.cut?_eq_some_iff.2 ⟨ht, hw⟩
  have hcut' : t.cut? b'.span.start = some (u', v') := Text.cut?_eq_some_iff.2 ⟨ht', hu'⟩
  obtain ⟨m, rfl, -⟩ := Text.exists_between hcut hcut' hle
  have hline : (b.entry t).line = 1 + u.count '\n' := by
    rw [entry, ← hu, ht, List.append_assoc, Text.take_bytes_of_append, Text.count_bytes]
  have hline' : (b'.entry t).line = 1 + (u ++ w ++ m).count '\n' := by
    rw [entry, ← hu', ht', Text.take_bytes_of_append, Text.count_bytes]
  have hpos : 0 < w.count '\n' := List.count_pos_iff.2 hfeed
  rw [hline, hline', List.count_append, List.count_append]
  omega

/-- **The numbers of a listing increase.** -/
theorem Text.pairwise_entries (t : Text) : t.entries.Pairwise fun e e' => e.line < e'.line := by
  refine List.pairwise_map.2 ((Scanner.pairwise_blocks .standard t).imp_of_mem fun hb hb' hbefore => ?_)
  exact Block.line_lt hb hb' hbefore.1

theorem Text.proper_of_mem_entries {t : Text} : ∀ e ∈ t.entries, e.Proper :=
  List.forall_mem_map.2 fun _ hb => Block.proper_entry hb

/-! ## Reading a listing back -/

/-- What stands before the first of some characters, and what stands behind it. -/
theorem Text.append_cons_inj {x : Char} {u u' v v' : Text} (hu : x ∉ u) (hu' : x ∉ u')
    (h : u ++ x :: v = u' ++ x :: v') : u = u' ∧ v = v' := by
  have hclear : ∀ {w : Text}, x ∉ w → ∀ c ∈ w, (c != x) = true := by
    intro w hw c hc
    simpa using fun hcx : c = x => hw (hcx ▸ hc)
  have hx : (x != x) = false := by simp
  have hfront := congrArg (List.takeWhile (· != x)) h
  rw [takeWhile_stop (hclear hu) hx, takeWhile_stop (hclear hu') hx] at hfront
  have hback := congrArg (List.dropWhile (· != x)) h
  rw [dropWhile_stop (hclear hu) hx, dropWhile_stop (hclear hu') hx] at hback
  exact ⟨hfront, (List.cons.inj hback).2⟩

theorem Text.ofNat_injective {m n : Nat} (h : ofNat m = ofNat n) : m = n := by
  calc
    m = Nat.ofDigitChars 10 (ofNat m) 0 := Nat.ofDigitChars_ten_toDigits.symm
    _ = Nat.ofDigitChars 10 (ofNat n) 0 := by rw [h]
    _ = n := Nat.ofDigitChars_ten_toDigits

theorem Text.space_notMem_ofNat (n : Nat) : ' ' ∉ ofNat n := by
  intro h
  have hdigit : ' '.isDigit = true := Nat.isDigit_of_mem_toDigits (by decide) (by decide) h
  exact absurd hdigit (by decide)

namespace Entry

variable {name : Text} {e e' : Entry} {es es' : List Entry}

theorem Proper.space_notMem (h : e.Proper) : ' ' ∉ e.language := fun hc => absurd (h.language ' ' hc) (by decide)

/-- **One line** of a listing can be told from what follows it, and so can its parts. -/
theorem text_append_inj {r r' : Text} (h : e.Proper) (h' : e'.Proper)
    (heq : e.text name ++ r = e'.text name ++ r') : e = e' ∧ r = r' := by
  have hparts : ∀ (e : Entry) (r : Text), e.text name ++ r = name ++ ':' ::
      (Text.ofNat e.line ++ ' ' :: ' ' :: (e.language ++ ' ' :: ' ' :: (e.source ++ '\n' :: r))) := by
    intro e r
    simp [text, Text.concat]
  rw [hparts, hparts] at heq
  have hline := (List.cons.inj (List.append_cancel_left heq)).2
  obtain ⟨hnumber, hline⟩ :=
    Text.append_cons_inj (Text.space_notMem_ofNat _) (Text.space_notMem_ofNat _) hline
  obtain ⟨hlanguage, hline⟩ :=
    Text.append_cons_inj h.space_notMem h'.space_notMem (List.cons.inj hline).2
  obtain ⟨hsource, hrest⟩ := Text.append_cons_inj h.source h'.source (List.cons.inj hline).2
  obtain ⟨line, language, source⟩ := e
  obtain ⟨line', language', source'⟩ := e'
  obtain rfl : line = line' := Text.ofNat_injective hnumber
  obtain rfl : language = language' := hlanguage
  obtain rfl : source = source' := hsource
  exact ⟨rfl, hrest⟩

theorem text_ne_nil : e.text name ≠ [] := by
  simp [text, Text.concat]

theorem listing_injective (hes : ∀ e ∈ es, e.Proper) (hes' : ∀ e ∈ es', e.Proper)
    (h : listing name es = listing name es') : es = es' := by
  have hcons : ∀ (e : Entry) (es : List Entry), listing name (e :: es) = e.text name ++ listing name es :=
    fun _ _ => rfl
  induction es generalizing es' with
  | nil =>
    cases es' with
    | nil => rfl
    | cons e' es' =>
      rw [hcons] at h
      exact absurd (List.append_eq_nil_iff.1 h.symm).1 text_ne_nil
  | cons e es ih =>
    cases es' with
    | nil =>
      rw [hcons] at h
      exact absurd (List.append_eq_nil_iff.1 h).1 text_ne_nil
    | cons e' es' =>
      rw [hcons, hcons] at h
      obtain ⟨he, hlater⟩ := List.forall_mem_cons.1 hes
      obtain ⟨he', hlater'⟩ := List.forall_mem_cons.1 hes'
      obtain ⟨rfl, hrest⟩ := text_append_inj he he' h
      rw [ih hlater hlater' hrest]

end Entry

/-! ## Lines written to a sink -/

namespace Sink

variable {s s' : Sink} {ls : List Text}

theorem accepted_of_write {t : Text} (h : s.write t = (s', none)) : s'.accepted = s.accepted ++ t.bytes := by
  obtain ⟨limit, accepted⟩ := s
  cases limit with
  | none =>
    obtain rfl := congrArg Prod.fst h
    rfl
  | some l =>
    obtain ⟨n, fault⟩ := l
    obtain ⟨rfl, hfault⟩ := Prod.mk.inj h
    have hroom : t.byteLength ≤ n - accepted.length := by simpa using hfault
    have htake : t.bytes.take (n - accepted.length) = t.bytes := by
      apply List.take_of_length_le
      rwa [Text.length_bytes]
    exact congrArg (accepted ++ ·) htake

/-- **A sink that takes lines takes nothing else.** -/
theorem accepted_of_writeLines (h : s.writeLines ls = (s', none)) :
    s'.accepted = s.accepted ++ (Text.concat ls).bytes := by
  induction ls generalizing s with
  | nil =>
    obtain rfl := congrArg Prod.fst h
    simp [writeLines, Text.concat]
  | cons l ls ih =>
    unfold writeLines at h
    split at h
    · rename_i s₁ hwrite
      have hconcat : Text.concat (l :: ls) = l ++ Text.concat ls := rfl
      rw [ih h, accepted_of_write hwrite, hconcat, Text.bytes_append, List.append_assoc]
    · cases h

theorem exists_writeLines (h : s.Takes ls) : ∃ s', s.writeLines ls = (s', none) := by
  induction ls generalizing s with
  | nil => exact ⟨s, rfl⟩
  | cons l ls ih =>
    obtain ⟨hnone, hls⟩ := h
    have hwrite : s.write l = ((s.write l).1, none) := by rw [← hnone]
    unfold writeLines
    rw [hwrite]
    exact ih hls

end Sink

/-! ## What a listing writes -/

theorem Document.listingLines_scan (t : Text) (id : Nat) (name : Text) :
    (Document.scan .standard t id).blocks.map ((Document.scan .standard t id).listingLine name) =
      t.entries.map (Entry.text name) := by
  rw [Text.entries, List.map_map]
  refine List.map_congr_left fun b hb => ?_
  have hline : (Document.scan .standard t id).text.lineOf? b.span.start = some (b.entry t).line :=
    Block.lineOf?_start hb
  simp [listingLine, hline, Entry.text, Block.entry]

namespace Options

variable {o : Options} {f : LogFilter} {read read' : Reader} {stdout s : Sink} {t : Text}

theorem plan_listing (hl : o.list = true) (ht : read o.file = .ok t)
    (hs : stdout.writeLines (t.entries.map (Entry.text o.file)) = (s, none)) :
    ∃ log, o.plan f read stdout = .finish ⟨0, s, log, false⟩ := by
  unfold plan readDocument
  rw [ht]
  simp only [Except.mapError, planFor, hl, if_true, Document.listingLines_scan, hs]
  exact ⟨_, rfl⟩

/-- A listing reads nothing but its document. -/
theorem plan_listing_congr (hl : o.list = true) (h : read' o.file = read o.file) :
    o.plan f read' stdout = o.plan f read stdout := by
  unfold plan readDocument
  rw [h]
  cases read o.file with
  | error fault => rfl
  | ok t => simp only [Except.mapError, planFor, hl, if_true]

end Options

/-! ## What an inlining announces -/

theorem Progress.writeLines_of_visitAll {read : Reader} {base : Path} {id : Nat} {p p' : Progress} {bs : List Block}
    (h : p.visitAll read base id bs = (p', none)) :
    p.sink.writeLines (bs.map Block.announcement) = (p'.sink, none) := by
  induction bs generalizing p with
  | nil =>
    obtain rfl := congrArg Prod.fst h
    rfl
  | cons b bs ih =>
    unfold visitAll at h
    split at h
    · rename_i q hq
      obtain ⟨-, hwrite, -⟩ := visit_eq_none hq
      rw [List.map_cons, Sink.writeLines, hwrite]
      exact ih h
    · cases h

theorem Document.writeLines_of_inline {d : Document} {read : Reader} {base : Path} {sink : Sink} {u : Update}
    (h : (d.inline read base sink).result = .ok u) :
    sink.writeLines (d.blocks.reverse.map Block.announcement) = ((d.inline read base sink).sink, none) := by
  unfold inline at h ⊢
  split at h
  · rename_i p hp
    exact Progress.writeLines_of_visitAll hp
  · cases h

namespace Inliner

variable {i : Inliner} {d : Disk} {p : Path} {sink : Sink}

theorem sink_syncInPlace : (i.syncInPlace d p sink).2.sink = (i.sync d p sink).sink := by
  unfold syncInPlace
  dsimp only
  split
  · rfl
  · split <;> rfl

theorem sink_sync {t : Text} (h : d.readText p = .ok t) :
    (i.sync d p sink).sink = ((Document.scan i.scanner t 0).inline d.readText i.base sink).sink := by
  unfold sync readDocument
  rw [h]
  rfl

end Inliner

/-! ## Invocations -/

namespace Invocation

/-- The invocation lists the blocks of the document at this path. -/
def Lists (i : Invocation) (file : Path) : Prop :=
  ∃ o, Request.parse i.arguments = .ok (.run o) ∧ o.list = true ∧ o.file = file

/-- The invocation inlines the document at this path and announces the blocks. -/
def Announces (i : Invocation) (file : Path) : Prop :=
  ∃ o, Request.parse i.arguments = .ok (.run o) ∧ o.check = false ∧ o.list = false ∧ o.quiet = false ∧ o.file = file

variable {i : Invocation} {file : Path} {d d' : Disk} {stdout : Sink} {t : Text}

theorem Lists.run (h : i.Lists file) (ht : d.readText file = .ok t)
    (hs : stdout.Takes (t.entries.map (Entry.text file))) : (i.run d stdout).2.code = 0 ∧
      (i.run d stdout).2.stdout.accepted = stdout.accepted ++ (Entry.listing file t.entries).bytes := by
  obtain ⟨o, hparse, hl, rfl⟩ := h
  obtain ⟨s, hwrite⟩ := Sink.exists_writeLines hs
  obtain ⟨f, warnings, hplan⟩ := exists_plan hparse d.readText stdout
  obtain ⟨log, hlisting⟩ := Options.plan_listing (f := f) hl ht hwrite
  rw [hlisting] at hplan
  unfold Invocation.run
  rw [hplan]
  exact ⟨rfl, Sink.accepted_of_writeLines hwrite⟩

theorem Lists.run_congr (h : i.Lists file) (hd : d'.readText file = d.readText file) :
    (i.run d' stdout).2 = (i.run d stdout).2 := by
  obtain ⟨o, hparse, hl, rfl⟩ := h
  unfold Invocation.run plan
  rw [hparse]
  simp only [Options.plan_listing_congr hl hd]
  obtain ⟨r, hr⟩ : ∃ r, o.plan (LogFilter.parse i.logSpec).1 d.readText stdout = .finish r := Options.plan_list hl
  rw [hr]
  rfl

theorem Announces.run (h : i.Announces file) (hcode : (i.run d stdout).2.code = 0) :
    ∃ t, d.readText file = .ok t ∧ (i.run d stdout).2.stdout.accepted =
      stdout.accepted ++ (Text.concat (t.entries.reverse.map Entry.announcement)).bytes := by
  obtain ⟨o, hparse, hc, hl, hq, rfl⟩ := h
  obtain ⟨u, hu⟩ := (run_plain hparse hc hl d stdout).2.1 hcode
  obtain ⟨rs, -, hrun⟩ := run_eq_syncInPlace hparse hc hl d stdout
  simp only [hq, Bool.false_eq_true, if_false] at hu hrun
  obtain ⟨t, ht, hinline⟩ := Inliner.result_sync_eq_ok_iff.1 (Inliner.result_syncInPlace_eq_ok_iff.1 hu).1
  have hsink : (Inliner.standard.syncInPlace d o.file stdout).2.sink =
      ((Document.scan .standard t 0).inline d.readText [] stdout).sink :=
    Inliner.sink_syncInPlace.trans (Inliner.sink_sync ht)
  have hstdout : (i.run d stdout).2.stdout = ((Document.scan .standard t 0).inline d.readText [] stdout).sink := by
    rw [hrun, ← hsink]
    simp only [Attempt.report, hu]
  have hlines : (Document.scan .standard t 0).blocks.reverse.map Block.announcement =
      t.entries.reverse.map Entry.announcement := by
    rw [Text.entries, ← List.map_reverse, List.map_map]
    rfl
  refine ⟨t, ht, ?_⟩
  rw [hstdout, ← hlines]
  exact Sink.accepted_of_writeLines (Document.writeLines_of_inline hinline)

end Invocation

/-- **A listing is faithful.** If its document can be read and the output takes everything, it ends with code zero.
Every block has a line, which is one and the number of line feeds before the block, and these numbers increase from one
block to the next. What is written depends on the document alone, and the entries of the document can be read back from
it. Wherever an inlining of the document succeeds, what it announces is the sources of the entries, the last one first.
-/
theorem listing_faithful (file : Path) :
    (∀ (i : Invocation) (d : Disk) (stdout : Sink) (t : Text), i.Lists file → d.readText file = .ok t →
      stdout.limit = none →
      (i.run d stdout).2.code = 0 ∧
      (∀ b ∈ t.blocks, t.lineOf? b.span.start = some (b.entry t).line) ∧
      t.entries.Pairwise (fun e e' => e.line < e'.line) ∧
      (i.run d stdout).2.stdout.accepted = stdout.accepted ++ (Entry.listing file t.entries).bytes ∧
      ∀ (i' : Invocation) (d' : Disk) (t' : Text), i'.Lists file → d'.readText file = .ok t' →
        (i'.run d' stdout).2.stdout.accepted = (i.run d stdout).2.stdout.accepted → t'.entries = t.entries) ∧
    (∀ (i : Invocation) (d d' : Disk) (stdout : Sink), i.Lists file → d'.readText file = d.readText file →
      (i.run d' stdout).2 = (i.run d stdout).2) ∧
    (∀ (i : Invocation) (d : Disk) (stdout : Sink), i.Announces file → (i.run d stdout).2.code = 0 →
      ∃ t, d.readText file = .ok t ∧ (i.run d stdout).2.stdout.accepted =
        stdout.accepted ++ (Text.concat (t.entries.reverse.map Entry.announcement)).bytes) := by
  refine ⟨fun i d stdout t hi ht hs => ?_, fun i d d' stdout hi hd => hi.run_congr hd,
    fun i d stdout hi hcode => hi.run hcode⟩
  obtain ⟨hcode, hout⟩ := hi.run ht (Sink.takes_of_unlimited hs _)
  refine ⟨hcode, fun b hb => Block.lineOf?_start hb, t.pairwise_entries, hout, fun i' d' t' hi' ht' hsame => ?_⟩
  obtain ⟨-, hout'⟩ := hi'.run ht' (Sink.takes_of_unlimited hs _)
  rw [hout, hout'] at hsame
  exact Entry.listing_injective Text.proper_of_mem_entries Text.proper_of_mem_entries
    (Text.bytes_injective (List.append_cancel_left hsame))

/-- Two blocks as those that hold each other's sources, with other bodies, and a document of them alone. -/
def emptiedText : Text := "```a {source=x}\n```\n\n```b {source=y}\n```"

def emptiedDisk : Disk := ⟨[], [([("README.md" : Text)], .file emptiedText.bytes)]⟩

theorem listing_faithful_of_swapped :
    Invocation.Lists ⟨["--list"], []⟩ "README.md" ∧ Invocation.Announces ⟨[], []⟩ "README.md" ∧
    swappedDisk.readText "README.md" = .ok swappedText ∧ emptiedDisk.readText "README.md" = .ok emptiedText ∧
    (Invocation.run ⟨["--list"], []⟩ swappedDisk Sink.unlimited).2.code = 0 ∧
    (Invocation.run ⟨["--list"], []⟩ swappedDisk Sink.unlimited).2.stdout.accepted =
      Text.bytes "README.md:1  a  x\nREADME.md:4  b  y\n" ∧
    emptiedText.entries = swappedText.entries ∧
    (Invocation.run ⟨[], []⟩ swappedDisk Sink.unlimited).2.code = 0 ∧
    (Invocation.run ⟨[], []⟩ swappedDisk Sink.unlimited).2.stdout.accepted = Text.bytes "inlined y\ninlined x\n" := by
  have hlists : Invocation.Lists ⟨["--list"], []⟩ "README.md" := ⟨_, rfl, rfl, rfl⟩
  have hannounces : Invocation.Announces ⟨[], []⟩ "README.md" := ⟨_, rfl, rfl, rfl, rfl, rfl⟩
  have hread : swappedDisk.readText "README.md" = .ok swappedText := Disk.readText_of_readBytes rfl
  have hread' : emptiedDisk.readText "README.md" = .ok emptiedText := Disk.readText_of_readBytes rfl
  have hlisting : Entry.listing "README.md" swappedText.entries = "README.md:1  a  x\nREADME.md:4  b  y\n" := by
    decide +kernel
  have hreverse : Text.concat (swappedText.entries.reverse.map Entry.announcement) = "inlined y\ninlined x\n" := by
    decide +kernel
  have hplain : (Invocation.run ⟨[], []⟩ swappedDisk Sink.unlimited).2.code = 0 := by decide +kernel
  obtain ⟨hlist, -, hinline⟩ := listing_faithful "README.md"
  obtain ⟨hcode, -, -, hout, hback⟩ := hlist _ swappedDisk Sink.unlimited _ hlists hread rfl
  have hsame : (Invocation.run ⟨["--list"], []⟩ emptiedDisk Sink.unlimited).2.stdout.accepted =
      (Invocation.run ⟨["--list"], []⟩ swappedDisk Sink.unlimited).2.stdout.accepted := by decide +kernel
  obtain ⟨t, ht, hannounced⟩ := hinline _ swappedDisk Sink.unlimited hannounces hplain
  obtain rfl : swappedText = t := Except.ok.inj (hread.symm.trans ht)
  rw [hlisting] at hout
  rw [hreverse] at hannounced
  exact ⟨hlists, hannounces, hread, hread', hcode, hout, hback _ emptiedDisk _ hlists hread' hsame, hplain, hannounced⟩

end SnippetSync
