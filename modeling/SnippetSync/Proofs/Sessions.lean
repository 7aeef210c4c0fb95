import SnippetSync.Proofs.Atomicity
import SnippetSync.Proofs.Rewriting
import SnippetSync.Proofs.Staleness

/-!
# Sessions

Invocations of any kind follow each other on one disk. Most of them can change nothing: those that are wrong, that ask
for help or the version, that check or list, that fail. What is left is a run that ends with code zero, and it
overwrites one file, its document, with what inlining makes of it.

* `Session.after` — the disk after some invocations, each with an output of its own.
* `Invocation.Writes` — an invocation overwrites its document.
* `Invocation.writes_of_ne` — **an invocation that changes the disk overwrites its document**.
* `Session.writes_of_ne` — a place at which something changed holds what some invocation wrote there.
* `session_changes_by_writes` — **only successful runs that write change the disk**, in every session.
-/

namespace SnippetSync

abbrev Session := List (Invocation × Sink)

def Session.after (d : Disk) (session : Session) : Disk := session.foldl (fun d r => (r.1.run d r.2).1) d

namespace Invocation

variable {i : Invocation} {d : Disk} {stdout : Sink}

/-- The invocation ends with code zero and overwrites the file at a place, which is its document, the one that is given
or else the default, with what inlining makes of it. It is not told to check or to list, nor asked for help or the
version. -/
structure Writes (i : Invocation) (d : Disk) (stdout : Sink) (l : Location) (s t : Text) : Prop where
  code : (i.run d stdout).2.code = 0
  given : ∀ n ∈ Request.given i.arguments, n = .flag .quiet ∨ n = .flag .noColor
  document : ∃ file : Path, (Request.documents i.arguments = [file] ∨
    Request.documents i.arguments = [] ∧ file = "README.md") ∧ d.resolve file = .ok l
  before : d.node? l = some (.file s.bytes)
  inlined : ∃ u, ((Document.scan .standard s 0).inline d.readText [] Sink.unlimited).result = .ok u ∧ u.text = t
  written : (i.run d stdout).1.node? l = some (.file t.bytes)
  elsewhere : ∀ l', l' ≠ l → (i.run d stdout).1.node? l' = d.node? l'

/-- An invocation that changes the disk is a plain run. -/
theorem exists_plain_of_ne (h : (i.run d stdout).1 ≠ d) :
    ∃ o, Request.parse i.arguments = .ok (.run o) ∧ o.check = false ∧ o.list = false := by
  cases hparse : Request.parse i.arguments with
  | error e =>
    refine absurd ?_ h
    simp only [run, plan, hparse, Plan.carryOut]
  | ok request =>
    cases request with
    | help | version =>
      refine absurd ?_ h
      simp only [run, plan, hparse, Plan.carryOut]
    | run o =>
      refine ⟨o, rfl, ?_, ?_⟩
      · rw [Bool.eq_false_iff]
        intro hc
        exact h (run_check hparse hc d stdout).1
      · rw [Bool.eq_false_iff]
        intro hl
        obtain ⟨f, warnings, hplan⟩ := exists_plan hparse d.readText stdout
        obtain ⟨r, hr⟩ := @Options.plan_list o f d.readText stdout hl
        rw [run, hplan, hr] at h
        exact h rfl

theorem overwrites_of_ne (h : (i.run d stdout).1 ≠ d) : ∃ o s u, Request.parse i.arguments = .ok (.run o) ∧
    o.check = false ∧ o.list = false ∧ (i.run d stdout).2.code = 0 ∧ d.readText o.file = .ok s ∧
    ((Document.scan .standard s 0).inline d.readText [] (if o.quiet then Sink.unlimited else stdout)).result = .ok u ∧
    d.Overwrites o.file u.text (i.run d stdout).1 := by
  obtain ⟨o, hparse, hc, hl⟩ := exists_plain_of_ne h
  obtain ⟨hdisk, hcode⟩ := run_plain hparse hc hl d stdout
  obtain ⟨u, hu⟩ : ∃ u,
      (Inliner.standard.syncInPlace d o.file (if o.quiet then Sink.unlimited else stdout)).2.result = .ok u := by
    refine Classical.byContradiction fun hno => ?_
    exact h (hdisk.trans (Inliner.disk_syncInPlace_of_error fun u hu => hno ⟨u, hu⟩))
  obtain ⟨s, hs⟩ := Inliner.exists_readText_of_syncInPlace hu
  refine ⟨o, s, u, hparse, hc, hl, hcode.2 ⟨u, hu⟩, hs, ((Inliner.result_syncInPlace_of_readText hs).1 hu).1, ?_⟩
  rw [hdisk]
  exact Inliner.overwrites_syncInPlace hu

/-- **An invocation that changes the disk overwrites its document.** -/
theorem writes_of_ne (h : (i.run d stdout).1 ≠ d) : ∃ l s t, i.Writes d stdout l s t := by
  obtain ⟨o, s, u, hparse, hc, hl, hcode, hs, hu, hwrites⟩ := overwrites_of_ne h
  obtain ⟨hgiven, hdocument⟩ := Request.given_of_parse hparse hc hl
  obtain ⟨l, hlocation, -⟩ := Disk.readText_eq_ok_iff.1 hs
  obtain ⟨hbefore, hafter⟩ | ⟨-, -, hsame⟩ := hwrites.node?_target hs hlocation
  · exact ⟨l, s, u.text, hcode, hgiven, ⟨o.file, hdocument, hlocation⟩, hbefore,
      ⟨u, Document.inline_unlimited hu, rfl⟩, hafter, fun l' => hwrites.node?_of_ne hlocation⟩
  · exact absurd hsame h

theorem sameShape_run (i : Invocation) (d : Disk) (stdout : Sink) : d.SameShape (i.run d stdout).1 := by
  by_cases h : (i.run d stdout).1 = d
  · rw [h]
    exact .refl d
  · obtain ⟨o, s, u, -, -, -, -, -, -, hwrites⟩ := overwrites_of_ne h
    exact hwrites.sameShape

end Invocation

namespace Session

variable {d : Disk} {session : Session}

theorem sameShape_after (d : Disk) (session : Session) : d.SameShape (session.after d) := by
  induction session generalizing d with
  | nil => exact .refl d
  | cons r session ih => exact (r.1.sameShape_run d r.2).trans (ih _)

/-- A place at which something changed holds what the last invocation that overwrote it wrote there. -/
theorem writes_of_ne {l : Location} (h : (session.after d).node? l ≠ d.node? l) :
    ∃ before i stdout behind s t, session = before ++ (i, stdout) :: behind ∧
      i.Writes (Session.after d before) stdout l s t ∧ (session.after d).node? l = some (.file t.bytes) := by
  induction session generalizing d with
  | nil => exact absurd rfl h
  | cons r session ih =>
    obtain ⟨i, stdout⟩ := r
    by_cases hrest : (Session.after (i.run d stdout).1 session).node? l = (i.run d stdout).1.node? l
    · -- nothing changes it behind the first invocation, which has then overwritten it
      have hfirst : (i.run d stdout).1.node? l ≠ d.node? l := hrest ▸ h
      obtain ⟨l', s, t, hwrites⟩ := Invocation.writes_of_ne fun hsame => hfirst (by rw [hsame])
      obtain rfl : l = l' := by
        refine Classical.byContradiction fun hne => ?_
        exact hfirst (hwrites.elsewhere l hne)
      exact ⟨[], i, stdout, session, s, t, rfl, hwrites, hrest.trans hwrites.written⟩
    · obtain ⟨before, i', stdout', behind, s, t, rfl, hwrites, hlast⟩ := ih hrest
      exact ⟨(i, stdout) :: before, i', stdout', behind, s, t, rfl, hwrites, hlast⟩

end Session

/-- **Only successful runs that write change the disk.** In any session on any disk, whatever its invocations are told
and whatever their outputs take, an invocation that ends with another code than zero leaves the disk as it is, and so
does one that is given the option to check, to list, for help or for the version. One that changes the disk ends with
code zero and overwrites its document, and that alone, with what inlining makes of it on the disk of that moment. So a
session makes no file and removes none, and each place that is not as it was holds what one of the invocations made of
its document. -/
theorem session_changes_by_writes (d : Disk) (session : Session) :
    (∀ before i stdout behind, session = before ++ (i, stdout) :: behind →
      let disk := Session.after d before
      ((i.run disk stdout).2.code ≠ 0 ∨ (∃ n ∈ Request.given i.arguments,
          n = .flag .check ∨ n = .flag .list ∨ n = .help ∨ n = .version) → (i.run disk stdout).1 = disk) ∧
      ((i.run disk stdout).1 ≠ disk → ∃ l s t, i.Writes disk stdout l s t)) ∧
    d.SameShape (session.after d) ∧
    ∀ l, (session.after d).node? l ≠ d.node? l → ∃ before i stdout behind s t,
      session = before ++ (i, stdout) :: behind ∧ i.Writes (Session.after d before) stdout l s t ∧
        (session.after d).node? l = some (.file t.bytes) := by
  refine ⟨fun before i stdout behind _ => ⟨?_, Invocation.writes_of_ne⟩, session.sameShape_after d,
    fun l => Session.writes_of_ne⟩
  intro h
  refine Classical.byContradiction fun hne => ?_
  obtain ⟨l, s, t, hwrites⟩ := Invocation.writes_of_ne hne
  rcases h with hcode | ⟨n, hn, hcases⟩
  · exact hcode hwrites.code
  · rcases hwrites.given n hn with rfl | rfl <;> simp at hcases

/-- A listing whose output breaks off, a quiet run, and a check that asks for help. -/
def mixedSession : Session :=
  [(⟨["--list"], []⟩, Sink.limited 3 .outputFull), (⟨["-q"], []⟩, Sink.unlimited),
    (⟨["--check", "-qh"], []⟩, Sink.unlimited)]

theorem session_changes_by_writes_of_mixed :
    (Invocation.run ⟨["--list"], []⟩ swappedDisk (Sink.limited 3 .outputFull)).2.code = brokenOutputCode ∧
    (Invocation.run ⟨["--list"], []⟩ swappedDisk (Sink.limited 3 .outputFull)).1 = swappedDisk ∧
    Request.given ["--check", "-qh"] = [.flag .check, .flag .quiet, .help] ∧
    (Session.after swappedDisk mixedSession).node? ["README.md"] ≠ swappedDisk.node? ["README.md"] ∧
    ∃ before i stdout behind s t, mixedSession = before ++ (i, stdout) :: behind ∧
      i.Writes (Session.after swappedDisk before) stdout ["README.md"] s t ∧
        (Session.after swappedDisk mixedSession).node? ["README.md"] = some (.file t.bytes) := by
  obtain ⟨hinvocations, -, hplaces⟩ := session_changes_by_writes swappedDisk mixedSession
  have hcode : (Invocation.run ⟨["--list"], []⟩ swappedDisk (Sink.limited 3 .outputFull)).2.code =
      brokenOutputCode := by decide +kernel
  have hne : (Session.after swappedDisk mixedSession).node? ["README.md"] ≠ swappedDisk.node? ["README.md"] := by
    decide +kernel
  have hbroken : brokenOutputCode ≠ 0 := by decide
  have hlist := (hinvocations [] _ _ _ rfl).1 (.inl (hcode ▸ hbroken))
  exact ⟨hcode, hlist, rfl, hne, hplaces _ hne⟩

end SnippetSync
