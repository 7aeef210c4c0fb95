import SnippetSync.Proofs.Located

/-!
# A plain run is a sync in place

The command reads, scans, inlines and writes on its own account, with sinks, exits and a number for the document of its
own. Still a plain run does what a sync in place does: the disk, the exit code and the output are the same, and where
the sync fails the run shows its failure, with the place in the document if it points at one. A quiet run is a sync in
place whose announcements go nowhere.

* `Diagnostic.exists_render` — a diagnostic about a stretch of the document shows its message and the place.
* `Document.location_of_inline`, `Failure.shown_lines` — a failure points at a stretch of the document, if anywhere.
* `LogFilter.render_default` — if no filter is given, the log of a run is empty.
* `Document.inline_of_unlimited`, `Options.plan_quiet` — sinks that take everything make no difference.
* `Invocation.run_eq_syncInPlace` — a run is a sync in place that is reported.
* `run_refines_syncInPlace` — **the run and the sync agree**, and so do quiet runs and others.
-/

namespace SnippetSync

/-! ## What is shown of a failure -/

namespace Diagnostic

def Layout.placeLine (l : Layout) (name : Text) (start : Place) : Text :=
  l.row [] "┌─" (Text.concat [" ", name, ":", Text.ofNat start.line, ":", Text.ofNat (start.left.length + 1)])

/-- A diagnostic about a stretch of the document shows its message, and then where the stretch begins. -/
theorem exists_render {text : Text} (d : Diagnostic) (h : d.span.IsIn text) (name : Text) :
    ∃ start l rest, place? text d.span.start = some start ∧
      d.render name text = Text.concat [d.severity.word, ": ", d.message, "\n"] ++ Layout.placeLine l name start ++
        rest := by
  obtain ⟨inside, hinside⟩ := h.exists_slice?
  obtain ⟨u, hu⟩ := Option.isSome_iff_exists.1 h.start
  obtain ⟨v, hv⟩ := Option.isSome_iff_exists.1 h.stop
  have hstart : place? text d.span.start = some (.after u.1) := by simp [place?, hu]
  have hstop : place? text d.span.stop = some (.after v.1) := by simp [place?, hv]
  unfold render
  simp only [hstart, hstop, hinside]
  have hparts : ∀ head place snippet : Text,
      Text.concat [head, place, snippet, "\n"] = head ++ place ++ (snippet ++ "\n") := by
    intro head place snippet
    simp [Text.concat]
  exact ⟨_, ⟨(Text.ofNat (Place.after v.1).line).length⟩, _, rfl, hparts _ _ _⟩

end Diagnostic

/-- A text that shows a failure in the reading of a source shows the message, and behind it where in the document of
this name and text the path of the source begins. Of any other failure it shows the message alone. -/
inductive Failure.ShownAs (name text : Text) : Failure → Text → Prop
  | located {path : Path} {span : Span} {id : Nat} {fault : Fault} (start : Diagnostic.Place)
      (l : Diagnostic.Layout) (rest : Text) (place : Diagnostic.place? text span.start = some start) :
      ShownAs name text (.readSource path span id fault)
        (Text.concat ["error: ", (Failure.readSource path span id fault).message, "\n"] ++ l.placeLine name start ++
          rest)
  | plain {f : Failure} (other : ∀ path span id fault, f ≠ .readSource path span id fault) :
      ShownAs name text f (Text.concat ["error: ", f.message, "\n"])

theorem Failure.shown_lines {f : Failure} {text : Text}
    (h : ∀ path span id fault, f = .readSource path span id fault → span.IsIn text) (name : Text) :
    f.ShownAs name text (f.lines name text).1 := by
  cases f with
  | readSource path span id fault =>
    obtain ⟨start, l, rest, hplace, hrender⟩ :=
      Diagnostic.exists_render (diagnostic (.readSource path span id fault) span) (h path span id fault rfl) name
    have hlines : ((Failure.readSource path span id fault).lines name text).1 = _ := hrender
    rw [hlines]
    exact .located start l rest hplace
  | readDocument | writeDocument | output | splice => exact .plain nofun

/-- The failure of an inlining points at a stretch of the document, if anywhere. -/
theorem Document.location_of_inline {s : Scanner} {t : Text} {id : Nat} {read : Reader} {base : Path} {sink : Sink}
    {path : Path} {span : Span} {id' : Nat} {fault : Fault}
    (h : ((Document.scan s t id).inline read base sink).result = .error (.readSource path span id' fault)) :
    span.IsIn t := by
  obtain ⟨before, b, behind, -, -, rfl, hb, -⟩ := exists_unread h
  exact Span.isIn_of_slice? hb.source

/-! ## Logs -/

def Record.IsQuiet (r : Record) : Prop := LogLevel.error.rank < r.level.rank

theorem LogFilter.render_default {rs : List Record} (h : ∀ r ∈ rs, r.IsQuiet) :
    (LogFilter.parse []).1.render rs = [] := by
  have hfilter : (LogFilter.parse []).1 = ⟨defaultDirectives, none⟩ := rfl
  have hshows : ∀ r ∈ rs, ¬ (LogFilter.parse []).1.shows r = true := by
    intro r hr
    have hrank : LogLevel.error.rank < r.level.rank := h r hr
    rw [hfilter]
    simp [shows, deciding?, defaultDirectives, hrank]
  rw [render, List.filter_eq_nil_iff.2 hshows]
  rfl

theorem Record.isQuiet_ofScan (bs : List Block) : ∀ r ∈ ofScan bs, r.IsQuiet := by
  intro r hr
  rcases List.mem_append.1 hr with hr | hr
  · obtain ⟨b, -, rfl⟩ := List.mem_map.1 hr
    show 1 < 5
    omega
  · obtain rfl := List.mem_singleton.1 hr
    show 1 < 4
    omega

namespace Progress

variable (read : Reader) (base : Path) (id : Nat) {p : Progress}

theorem isQuiet_visit (b : Block) (h : ∀ r ∈ p.records, r.IsQuiet) :
    ∀ r ∈ (p.visit read base id b).1.records, r.IsQuiet := by
  rcases hvisit : p.visit read base id b with ⟨p', failure?⟩
  cases visits_of_visit hvisit with
  | unread | unannounced | refused => exact h
  | done =>
    refine List.forall_mem_append.2 ⟨h, fun r hr => ?_⟩
    obtain rfl := List.mem_singleton.1 hr
    show 1 < 5
    omega

theorem isQuiet_visitAll (bs : List Block) (h : ∀ r ∈ p.records, r.IsQuiet) :
    ∀ r ∈ (p.visitAll read base id bs).1.records, r.IsQuiet := by
  induction bs generalizing p with
  | nil => exact h
  | cons b bs ih =>
    have hvisit := isQuiet_visit read base id b h
    unfold visitAll
    split
    · rename_i q hq
      rw [hq] at hvisit
      exact ih hvisit
    · rename_i q failure hq
      rw [hq] at hvisit
      exact hvisit

end Progress

theorem Document.isQuiet_inline (d : Document) (read : Reader) (base : Path) (sink : Sink) :
    ∀ r ∈ (d.inline read base sink).records, r.IsQuiet := by
  have hvisit := Progress.isQuiet_visitAll read base d.id (p := Progress.ofText d.text sink) d.blocks.reverse
    (fun r hr => absurd hr List.not_mem_nil)
  unfold inline
  split <;> (rename_i hp; rw [hp] at hvisit; exact hvisit)

/-! ## Quiet runs -/

namespace Progress

variable (read : Reader) (base : Path) (id : Nat) {p : Progress} {s : Sink}

theorem visit_withSink (hp : p.sink.limit = none) (hs : s.limit = none) (b : Block) :
    (p.visit read base id b).1.sink.limit = none ∧ ∃ s' : Sink, s'.limit = none ∧
      { p with sink := s }.visit read base id b =
        ({ (p.visit read base id b).1 with sink := s' }, (p.visit read base id b).2) := by
  have hwrite : ∀ {s : Sink}, s.limit = none →
      s.write b.announcement = (⟨none, s.accepted ++ b.announcement.bytes⟩, none) := by
    rintro ⟨limit, accepted⟩ rfl
    rfl
  unfold visit
  dsimp only
  split
  · exact ⟨hp, s, hs, rfl⟩
  · rw [hwrite hp, hwrite hs]
    dsimp only
    split
    · exact ⟨rfl, _, rfl, rfl⟩
    · exact ⟨rfl, _, rfl, rfl⟩

theorem visitAll_withSink (hp : p.sink.limit = none) (hs : s.limit = none) (bs : List Block) :
    ∃ s' : Sink, { p with sink := s }.visitAll read base id bs =
      ({ (p.visitAll read base id bs).1 with sink := s' }, (p.visitAll read base id bs).2) := by
  induction bs generalizing p s with
  | nil => exact ⟨s, rfl⟩
  | cons b bs ih =>
    have hstep := visit_withSink read base id hp hs b
    unfold visitAll
    revert hstep
    rcases p.visit read base id b with ⟨q, failure?⟩
    rintro ⟨hlimit, s', hs', hvisit⟩
    rw [hvisit]
    cases failure? with
    | none => exact ih hlimit hs'
    | some failure => exact ⟨s', rfl⟩

end Progress

theorem Document.inline_of_unlimited {s s' : Sink} (hs : s.limit = none) (hs' : s'.limit = none) (d : Document)
    (read : Reader) (base : Path) :
    ∃ s'', d.inline read base s' = { d.inline read base s with sink := s'' } := by
  obtain ⟨s'', hvisit⟩ := Progress.visitAll_withSink read base d.id (p := Progress.ofText d.text s) hs hs'
    d.blocks.reverse
  have hstart : { Progress.ofText d.text s with sink := s' } = Progress.ofText d.text s' := rfl
  rw [hstart] at hvisit
  refine ⟨s'', ?_⟩
  unfold inline
  rw [hvisit]
  obtain ⟨q, failure?⟩ := (Progress.ofText d.text s).visitAll read base d.id d.blocks.reverse
  cases failure? <;> rfl

/-- The plan with something else on the standard output. -/
def Plan.withStdout (s : Sink) : Plan → Plan
  | finish r => finish { r with stdout := s }
  | write p t success fault => write p t { success with stdout := s } fun x => { fault x with stdout := s }

theorem Plan.after_withStdout (shown : Text) (s : Sink) (p : Plan) :
    (p.withStdout s).after shown = (p.after shown).withStdout s := by
  cases p <;> rfl

theorem Plan.carryOut_withStdout (d : Disk) (s : Sink) (p : Plan) :
    (p.withStdout s).carryOut d = ((p.carryOut d).1, { (p.carryOut d).2 with stdout := s }) := by
  cases p with
  | finish r => rfl
  | write path t success fault =>
    simp only [withStdout, carryOut]
    cases d.writeText path t <;> rfl

/-- To be quiet changes nothing but the standard output, if that takes everything. -/
theorem Options.plan_quiet {o : Options} {stdout : Sink} (hc : o.check = false) (hl : o.list = false)
    (hs : stdout.limit = none) (f : LogFilter) (read : Reader) :
    { o with quiet := true }.plan f read stdout = (o.plan f read stdout).withStdout stdout := by
  unfold plan readDocument
  cases read o.file with
  | error fault => rfl
  | ok t =>
    have hsink : (if o.quiet then Sink.unlimited else stdout).limit = none := by
      cases o.quiet
      · exact hs
      · rfl
    have hunlimited : Sink.unlimited.limit = none := rfl
    obtain ⟨s, hinline⟩ := Document.inline_of_unlimited hsink hunlimited (Document.scan .standard t 0) read []
    simp only [Except.mapError, planFor, hc, hl, Bool.or_false, Bool.false_eq_true, if_false, if_true, hinline]
    cases ((Document.scan .standard t 0).inline read [] (if o.quiet then Sink.unlimited else stdout)).result with
    | error failure => rfl
    | ok u => rfl

/-! ## Plain runs -/

/-- The report of a run that does what a sync in place does: nothing is shown beyond a log unless that fails. -/
def Attempt.report (a : Attempt Update) (stdout : Sink) (log name text : Text) : Report :=
  match a.result with
  | .ok _ => ⟨0, stdout, log, false⟩
  | .error failure => ⟨1, stdout, log ++ (failure.lines name text).1, (failure.lines name text).2⟩

theorem Record.isQuiet_wrote (p : Path) (n : Nat) : (wrote p n).IsQuiet := by
  show 1 < 4
  omega

theorem Record.isQuiet_finished (p : Path) (m n : Nat) : (finished p m n).IsQuiet := by
  show 1 < 3
  omega

/-- **A plain run is a sync in place** that is reported, after the log of some records that tell of no error. -/
theorem Invocation.run_eq_syncInPlace {i : Invocation} {o : Options} (h : Request.parse i.arguments = .ok (.run o))
    (hc : o.check = false) (hl : o.list = false) (d : Disk) (stdout : Sink) :
    ∃ rs : List Record, (∀ r ∈ rs, r.IsQuiet) ∧ i.run d stdout =
      let synced := Inliner.standard.syncInPlace d o.file (if o.quiet then Sink.unlimited else stdout)
      (synced.1, synced.2.report (if o.quiet then stdout else synced.2.sink)
        ((LogFilter.parse i.logSpec).2 ++ (LogFilter.parse i.logSpec).1.render rs) o.file
        (Reader.contents d.readText [] o.file)) := by
  unfold run plan Options.plan Inliner.syncInPlace Inliner.sync readDocument Reader.contents
  rw [h, Path.join_nil]
  generalize LogFilter.parse i.logSpec = log
  cases hread : d.readText o.file with
  | error fault =>
    refine ⟨[], fun r hr => absurd hr List.not_mem_nil, ?_⟩
    simp only [hread, Except.mapError, Plan.after, Plan.carryOut, Attempt.report]
    cases o.quiet <;> simp [LogFilter.render, Failure.lines, Failure.location?]
  | ok t =>
    simp only [hread, Except.mapError, Options.planFor, hc, hl, Bool.or_false, Bool.false_eq_true, if_false]
    have hscan := Record.isQuiet_ofScan (Document.scan .standard t 0).blocks
    have hinline := Document.isQuiet_inline (Document.scan .standard t 0) d.readText []
      (if o.quiet then Sink.unlimited else stdout)
    have hlog : ∀ r ∈ Record.ofScan (Document.scan .standard t 0).blocks ++ ((Document.scan .standard t 0).inline
        d.readText [] (if o.quiet then Sink.unlimited else stdout)).records, r.IsQuiet :=
      List.forall_mem_append.2 ⟨hscan, hinline⟩
    cases hresult : ((Document.scan .standard t 0).inline d.readText []
        (if o.quiet then Sink.unlimited else stdout)).result with
    | error failure =>
      refine ⟨_, hlog, ?_⟩
      simp [hresult, Plan.after, Plan.carryOut, Attempt.report, Inliner.standard, Except.toOption]
    | ok u =>
      cases hwrite : d.writeText o.file u.text with
      | error fault =>
        refine ⟨_, hlog, ?_⟩
        simp [hresult, hwrite, Plan.after, Plan.carryOut, Attempt.report, Inliner.standard, Except.toOption,
          Update.writeTo, Except.mapError]
      | ok d' =>
        refine ⟨_ ++ [Record.wrote o.file u.text.byteLength, Record.finished o.file u.outcomes.length u.stale.length],
          List.forall_mem_append.2 ⟨hlog, by simp [Record.isQuiet_wrote, Record.isQuiet_finished]⟩, ?_⟩
        simp [hresult, hwrite, Plan.after, Plan.carryOut, Attempt.report, Inliner.standard, Update.writeTo,
          Except.mapError, LogFilter.render]

theorem Inliner.location_of_syncInPlace {i : Inliner} {d : Disk} {p : Path} {sink : Sink} {path : Path} {span : Span}
    {id : Nat} {fault : Fault}
    (h : (i.syncInPlace d p sink).2.result = .error (.readSource path span id fault)) :
    span.IsIn (Reader.contents d.readText [] p) := by
  rcases result_syncInPlace_eq_error_iff.1 h with h | ⟨u, fault', -, -, h⟩
  · unfold sync readDocument at h
    cases hread : d.readText p with
    | error fault' => simp [hread, Except.mapError] at h
    | ok t =>
      simp only [hread, Except.mapError] at h
      rw [Reader.contents_of_ok (by rw [Path.join_nil, hread])]
      exact Document.location_of_inline h
  · cases h

/-- **A plain run refines a sync in place.** The disk afterwards is the same; the code is zero if the sync succeeds, and
otherwise one; the output takes the same bytes, none if the run is quiet. A failure is shown as it is worded, after the
log if there is one, with its place in the document if it points at one and only then. To be quiet changes nothing but
the output, if that takes everything. -/
theorem run_refines_syncInPlace {i : Invocation} {o : Options} (h : Request.parse i.arguments = .ok (.run o))
    (hc : o.check = false) (hl : o.list = false) (d : Disk) (stdout : Sink) :
    let synced := Inliner.standard.syncInPlace d o.file (if o.quiet then Sink.unlimited else stdout)
    let report := (i.run d stdout).2
    (i.run d stdout).1 = synced.1 ∧
    (report.code = 0 ↔ ∃ u, synced.2.result = .ok u) ∧ (report.code = 0 ∨ report.code = 1) ∧
    report.stdout = (if o.quiet then stdout else synced.2.sink) ∧
    (∀ failure, synced.2.result = .error failure →
      (report.snippet = true ↔ ∃ path span id fault, failure = .readSource path span id fault) ∧
      ∃ (log : List Record) (shown : Text),
        failure.ShownAs o.file (Reader.contents d.readText [] o.file) shown ∧
        report.stderr = (LogFilter.parse i.logSpec).2 ++ (LogFilter.parse i.logSpec).1.render log ++ shown ∧
        (i.logSpec = [] → report.stderr = shown)) ∧
    (∀ i' : Invocation, Request.parse i'.arguments = .ok (.run { o with quiet := true }) → i'.logSpec = i.logSpec →
      stdout.limit = none → i'.run d stdout = ((i.run d stdout).1, { report with stdout := stdout })) := by
  intro synced report
  obtain ⟨log, hlog, hrun⟩ := i.run_eq_syncInPlace h hc hl d stdout
  have hdisk : (i.run d stdout).1 = synced.1 := congrArg Prod.fst hrun
  have hreport : report = synced.2.report (if o.quiet then stdout else synced.2.sink) _ o.file _ :=
    congrArg Prod.snd hrun
  refine ⟨hdisk, ?_, ?_, ?_, ?_, ?_⟩
  · rw [hreport, Attempt.report]
    cases synced.2.result <;> simp
  · rw [hreport, Attempt.report]
    cases synced.2.result <;> simp
  · rw [hreport, Attempt.report]
    cases synced.2.result <;> rfl
  · intro failure hfailure
    have hshown := Failure.shown_lines (f := failure) (fun path span id fault hf =>
      Inliner.location_of_syncInPlace (hf ▸ hfailure)) o.file
    rw [hreport, Attempt.report, hfailure]
    refine ⟨?_, log, _, hshown, rfl, fun hspec => ?_⟩
    · cases failure <;> simp [Failure.lines, Failure.location?]
    · rw [hspec, LogFilter.render_default hlog]
      rfl
  · intro i' h' hspec hs
    unfold report Invocation.run Invocation.plan
    rw [h, h', hspec]
    dsimp only
    rw [Options.plan_quiet hc hl hs, Plan.after_withStdout, Plan.carryOut_withStdout]

/-- A document with a block whose source is missing. -/
def danglingText : Text := "```a {source=x}\n12\n```\n"

def danglingDisk : Disk := ⟨[], [([("README.md" : Text)], .file danglingText.bytes)]⟩

def danglingFailure : Failure := .readSource "x" ⟨13, 14⟩ 0 .notFound

theorem run_refines_syncInPlace_of_dangling :
    Request.parse ["README.md"] = .ok (.run ⟨"README.md", false, false, false, false⟩) ∧
    Request.parse ["README.md", "-q"] = .ok (.run ⟨"README.md", false, false, true, false⟩) ∧
    (Inliner.standard.syncInPlace danglingDisk "README.md" Sink.unlimited).2.result = .error danglingFailure ∧
    (Invocation.run ⟨["README.md"], []⟩ danglingDisk Sink.unlimited).2.snippet = true ∧
    danglingFailure.ShownAs "README.md" danglingText
      (Invocation.run ⟨["README.md"], []⟩ danglingDisk Sink.unlimited).2.stderr ∧
    Invocation.run ⟨["README.md", "-q"], []⟩ danglingDisk Sink.unlimited =
      ((Invocation.run ⟨["README.md"], []⟩ danglingDisk Sink.unlimited).1,
        { (Invocation.run ⟨["README.md"], []⟩ danglingDisk Sink.unlimited).2 with stdout := Sink.unlimited }) := by
  have hresult : (Inliner.standard.syncInPlace danglingDisk "README.md" Sink.unlimited).2.result =
      .error danglingFailure := rfl
  have htext : Reader.contents danglingDisk.readText [] "README.md" = danglingText := rfl
  obtain ⟨-, -, -, -, hfailure, hquiet⟩ := run_refines_syncInPlace (i := ⟨["README.md"], []⟩)
    (o := ⟨"README.md", false, false, false, false⟩) rfl rfl rfl danglingDisk Sink.unlimited
  obtain ⟨hsnippet, log, shown, hshown, -, hstderr⟩ := hfailure _ hresult
  rw [← hstderr rfl, htext] at hshown
  exact ⟨rfl, rfl, hresult, hsnippet.2 ⟨_, _, _, _, rfl⟩, hshown, hquiet ⟨["README.md", "-q"], []⟩ rfl rfl rfl⟩

end SnippetSync
