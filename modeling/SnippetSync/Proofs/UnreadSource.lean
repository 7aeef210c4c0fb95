import SnippetSync.Proofs.PlainRun

/-!
# A source that cannot be read

An inlining that cannot read a source tells where the source is named. That place is a stretch of the document, inside
the block that names the source, and what stands there is the path that could not be read, as seen from the base. So
the diagnostic of a run shows the path in the document.

* `Document.exists_unread` — which block it is, and where its path stands.
* `unread_source_located` — **the failure points at the path**, for every scanner, and so does the run.
-/

namespace SnippetSync

/-- **The failure points at the path.** If the inlining of a scanned document cannot read a source, it tells the number
of the document and a span, which is a stretch of the text inside the span of one of the blocks. What stands there is
the path which cannot be read, as seen from the base, and the sources of all blocks behind this one can be read. A run
that comes to this failure ends with code one and shows a diagnostic with the place where the path stands, the path
being what stands there. -/
theorem unread_source_located :
    (∀ (s : Scanner) (t : Text) (id : Nat) (read : Reader) (base : Path) (sink : Sink) (path : Path) (span : Span)
      (id' : Nat) (fault : Fault),
      ((Document.scan s t id).inline read base sink).result = .error (.readSource path span id' fault) →
      id' = id ∧ (span.start ≤ span.stop ∧ t.IsBoundary span.start ∧ t.IsBoundary span.stop) ∧
      (∃ source, t.slice? span = some source ∧ path = base.join source) ∧ read path = .error fault ∧
      ∃ before b behind, s.blocks t = before ++ b :: behind ∧
        b.span.start ≤ span.start ∧ span.stop ≤ b.span.stop ∧
        ∀ c ∈ behind, ∃ contents, read (base.join c.source) = .ok contents) ∧
    (∀ (i : Invocation) (o : Options) (d : Disk) (stdout : Sink) (t : Text) (path : Path) (span : Span) (id : Nat)
      (fault : Fault),
      Request.parse i.arguments = .ok (.run o) → o.list = false → d.readText o.file = .ok t →
      ((Document.scan .standard t 0).inline d.readText []
        (if o.quiet || o.check then Sink.unlimited else stdout)).result = .error (.readSource path span id fault) →
      (i.run d stdout).2.code = 1 ∧ (i.run d stdout).2.snippet = true ∧
      (∃ (log : List Record) (shown : Text), (Failure.readSource path span id fault).ShownAs o.file t shown ∧
        (i.run d stdout).2.stderr =
          (LogFilter.parse i.logSpec).2 ++ ((LogFilter.parse i.logSpec).1.render log ++ shown)) ∧
      t.slice? span = some path ∧ d.readText path = .error fault) := by
  constructor
  · intro s t id read base sink path span id' fault h
    obtain ⟨before, b, behind, hblocks, hid, rfl, hb, hpath, hread, hbehind⟩ :=
      Document.exists_unread h
    have hin := Span.isIn_of_slice? hb.source
    exact ⟨hid, ⟨hin.le, hin.start, hin.stop⟩, ⟨b.source, hb.source, hpath⟩, hread, before, b, behind, hblocks,
      hb.start_le, hb.le_stop, hbehind⟩
  · intro i o d stdout t path span id fault hrun hlist ht h
    obtain ⟨before, b, behind, -, -, rfl, hb, hpath, hread, -⟩ := Document.exists_unread h
    rw [Path.join_nil] at hpath
    obtain ⟨stdout', log, hplan⟩ := Options.plan_of_failure (f := (LogFilter.parse i.logSpec).1) hlist ht h
    let failure : Failure := .readSource path b.sourceSpan id fault
    let filter := LogFilter.parse i.logSpec
    have hreport : (i.run d stdout).2 =
        ⟨1, stdout', filter.2 ++ (filter.1.render log ++ (failure.lines o.file t).1), (failure.lines o.file t).2⟩ := by
      unfold Invocation.run Invocation.plan
      rw [hrun]
      simp only [hplan, Plan.after, Plan.carryOut, filter, failure]
    have hshown := Failure.shown_lines (f := .readSource path b.sourceSpan id fault)
      (fun _ span _ _ hf => by cases hf; exact Span.isIn_of_slice? hb.source) o.file
    rw [hreport]
    exact ⟨rfl, rfl, ⟨log, _, hshown, rfl⟩, hpath ▸ hb.source, hread⟩

/-- A pattern by which the path of a source stands behind a sign. -/
def signText : Text := "(?P<open>@)(?P<language>)(?P<source>é+)(?P<body>)"

def signExpr : Expr :=
  .seq (.group 1 (some "open") (.literal "@"))
    (.seq (.group 2 (some "language") .empty)
      (.seq (.group 3 (some "source") (.rep (.literal "é") 1 none true)) (.group 4 (some "body") .empty)))

def signPattern : Pattern := ⟨signExpr.program⟩

def signBlock : Block := ⟨⟨2, 7⟩, "@", [], "éé", ⟨3, 7⟩, []⟩

/-- The document number seven, its source seen from a directory that is not there. -/
def signAttempt : Attempt Update :=
  (Document.scan (.pattern signPattern) "é@éé" 7).inline (⟨[], []⟩ : Disk).readText "lib" Sink.unlimited

theorem unread_source_located_of_sign :
    Pattern.ofText signText = .ok signPattern ∧
    signAttempt.result = .error (.readSource "lib/éé" ⟨3, 7⟩ 7 .notFound) ∧
    (∃ source, Text.slice? "é@éé" ⟨3, 7⟩ = some source ∧ ("lib/éé" : Path) = Path.join "lib" source) ∧
    Request.parse ["--check"] = .ok (.run ⟨"README.md", true, false, false, false⟩) ∧
    (Invocation.run ⟨["--check"], []⟩ danglingDisk Sink.unlimited).2.snippet = true ∧
    danglingText.slice? ⟨13, 14⟩ = some "x" := by
  have hblocks : (Scanner.pattern signPattern).blocks "é@éé" = [signBlock] := by decide +kernel
  have hsign : signAttempt.result = .error (.readSource "lib/éé" ⟨3, 7⟩ 7 .notFound) := by
    unfold signAttempt Document.scan
    rw [hblocks]
    rfl
  have hdangling : ((Document.scan .standard danglingText 0).inline danglingDisk.readText [] Sink.unlimited).result =
      .error danglingFailure := rfl
  obtain ⟨-, -, hsource, -⟩ := unread_source_located.1 _ _ _ _ _ _ _ _ _ _ hsign
  obtain ⟨-, hsnippet, -, hslice, -⟩ := unread_source_located.2 ⟨["--check"], []⟩
    ⟨"README.md", true, false, false, false⟩ danglingDisk Sink.unlimited danglingText _ _ _ _ rfl rfl rfl hdangling
  exact ⟨rfl, hsign, hsource, rfl, hsnippet, hslice⟩

end SnippetSync
