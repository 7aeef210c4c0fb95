import Mathlib
import SnippetSync.Command.Run
import SnippetSync.Proofs.Arguments

/-!
# What an invocation comes to

* `Plan.written?` — what a plan writes, and where.
* `Options.plan_check` — **the plan of a check**: nothing is written, and the code tells whether every block is as its
  source has it.
* `Options.plan_plain` — **the plan of a plain run**: the inlined document is written, unless the inlining fails.
* `Options.plan_list` — **the plan of a listing**: nothing is written.
* `Options.plan_of_failure` — **the plan of a run that cannot inline its document**.
* `Invocation.run_check`, `Invocation.written?_plain` — the same of an invocation that is read as one of these runs.
-/

namespace SnippetSync

/-! ## Plans -/

/-- What a plan writes, and where. -/
def Plan.written? : Plan → Option (Path × Text)
  | finish _ => none
  | write p t _ _ => some (p, t)

@[simp] theorem Plan.written?_after (shown : Text) (p : Plan) : (p.after shown).written? = p.written? := by
  cases p <;> rfl

namespace Options

variable {o : Options} {f : LogFilter} {read : Reader} {stdout : Sink}

/-- **The plan of a check**: nothing is written. The code is zero if the document can be read and inlined and no block
of it is stale, and otherwise one. -/
theorem plan_check (hc : o.check = true) (hl : o.list = false) :
    ∃ r, o.plan f read stdout = .finish r ∧ (r.code = 0 ∨ r.code = 1) ∧ (r.code = 0 ↔ ∃ t u, read o.file = .ok t ∧
      ((Document.scan .standard t 0).inline read [] Sink.unlimited).result = .ok u ∧ u.stale = []) := by
  unfold plan readDocument
  cases hread : read o.file with
  | error fault => simp [Except.mapError]
  | ok t =>
    simp only [Except.mapError, planFor, hl, hc, Bool.or_true, if_true, Bool.false_eq_true, if_false]
    cases hinline : ((Document.scan .standard t 0).inline read [] Sink.unlimited).result with
    | error failure => simp [hinline]
    | ok u => by_cases hs : u.stale = [] <;> simp [hinline, hs]

/-- **The plan of a plain run**: if the document can be read and inlined, the inlined document is written in its place,
and the code is zero if that can be done. Otherwise the code is one. -/
theorem plan_plain (hc : o.check = false) (hl : o.list = false) :
    (∃ t u success fault, read o.file = .ok t ∧
      ((Document.scan .standard t 0).inline read [] (if o.quiet then Sink.unlimited else stdout)).result = .ok u ∧
      o.plan f read stdout = .write o.file u.text success fault ∧ success.code = 0 ∧ ∀ x, (fault x).code = 1) ∨
    ((∀ t u, read o.file = .ok t →
        ((Document.scan .standard t 0).inline read [] (if o.quiet then Sink.unlimited else stdout)).result ≠ .ok u) ∧
      ∃ r, o.plan f read stdout = .finish r ∧ r.code = 1) := by
  unfold plan readDocument
  cases hread : read o.file with
  | error fault => exact .inr ⟨by simp, _, rfl, rfl⟩
  | ok t =>
    simp only [Except.mapError, planFor, hl, hc, Bool.or_false, Bool.false_eq_true, if_false]
    cases hinline : ((Document.scan .standard t 0).inline read []
        (if o.quiet = true then Sink.unlimited else stdout)).result with
    | error failure =>
      refine .inr ⟨fun t' u ht => ?_, _, rfl, rfl⟩
      obtain rfl := Except.ok.inj ht
      rw [hinline]
      simp
    | ok u => exact .inl ⟨t, u, _, _, rfl, hinline, rfl, rfl, fun _ => rfl⟩

/-- **The plan of a listing**: nothing is written, whatever the output takes. -/
theorem plan_list (hl : o.list = true) : ∃ r, o.plan f read stdout = .finish r := by
  unfold plan readDocument
  cases read o.file with
  | error fault => exact ⟨_, rfl⟩
  | ok t =>
    simp only [Except.mapError, planFor, hl, if_true]
    split <;> exact ⟨_, rfl⟩

/-- **The plan of a run whose document cannot be inlined**: nothing is written, the code is one, and the failure is
shown after the log. -/
theorem plan_of_failure {t : Text} {failure : Failure} (hl : o.list = false) (ht : read o.file = .ok t)
    (h : ((Document.scan .standard t 0).inline read [] (if o.quiet || o.check then Sink.unlimited else stdout)).result =
      .error failure) :
    ∃ stdout' log, o.plan f read stdout = .finish ⟨1, stdout', f.render log ++ (failure.lines o.file t).1,
      (failure.lines o.file t).2⟩ := by
  unfold plan readDocument
  rw [ht]
  simp only [Except.mapError, planFor, hl, Bool.false_eq_true, if_false, h]
  exact ⟨_, _, rfl⟩

end Options

/-! ## Invocations -/

namespace Invocation

variable {i : Invocation} {o : Options} {read : Reader} {stdout : Sink} {d : Disk}

theorem exists_plan (h : Request.parse i.arguments = .ok (.run o)) (read : Reader) (stdout : Sink) :
    ∃ f warnings, i.plan read stdout = (o.plan f read stdout).after warnings := by
  unfold plan
  rw [h]
  exact ⟨_, _, rfl⟩

theorem run_check (h : Request.parse i.arguments = .ok (.run o)) (hc : o.check = true) (d : Disk) (stdout : Sink) :
    (i.run d stdout).1 = d ∧ ((i.run d stdout).2.code = 0 ∨ (i.run d stdout).2.code = 1) ∧
      ((i.run d stdout).2.code = 0 ↔ ∃ t u, d.readText o.file = .ok t ∧
        ((Document.scan .standard t 0).inline d.readText [] Sink.unlimited).result = .ok u ∧ u.stale = []) := by
  obtain ⟨f, warnings, hplan⟩ := exists_plan h d.readText stdout
  obtain ⟨r, hr, hcode, hzero⟩ := Options.plan_check hc (Request.check_list_exclusive h hc)
  rw [hr] at hplan
  simp only [run, hplan, Plan.after, Plan.carryOut]
  exact ⟨trivial, hcode, hzero⟩

theorem written?_plain (h : Request.parse i.arguments = .ok (.run o)) (hc : o.check = false) (hl : o.list = false)
    {p : Path} {s : Text} : (i.plan read Sink.unlimited).written? = some (p, s) ↔ p = o.file ∧ ∃ t u,
      read o.file = .ok t ∧ ((Document.scan .standard t 0).inline read [] Sink.unlimited).result = .ok u ∧
        u.text = s := by
  obtain ⟨f, warnings, hplan⟩ := exists_plan h read Sink.unlimited
  rw [hplan, Plan.written?_after]
  obtain ⟨t, u, success, fault, ht, hu, hwrite, -⟩ | ⟨hfail, r, hr, -⟩ := Options.plan_plain hc hl
  · rw [hwrite]
    simp only [ite_self] at hu
    simp only [Plan.written?, Option.some.injEq, Prod.mk.injEq]
    constructor
    · rintro ⟨rfl, rfl⟩
      exact ⟨rfl, t, u, ht, hu, rfl⟩
    · rintro ⟨rfl, t', u', ht', hu', rfl⟩
      obtain rfl := Except.ok.inj (ht.symm.trans ht')
      obtain rfl := Except.ok.inj (hu.symm.trans hu')
      exact ⟨rfl, rfl⟩
  · rw [hr]
    simp only [ite_self] at hfail
    refine ⟨nofun, ?_⟩
    rintro ⟨-, t, u, ht, hu, -⟩
    exact absurd hu (hfail t u ht)

end Invocation

end SnippetSync
