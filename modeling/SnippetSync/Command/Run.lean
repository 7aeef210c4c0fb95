import SnippetSync.Command.Arguments
import SnippetSync.Diagnostic
import SnippetSync.Log.Filter
import SnippetSync.Sync.InPlace

/-!
# The command

What an invocation of the command does. Files are only read until all is known, and at most one is written at the end.
The standard output may refuse what is written to it. The standard error is a text, which takes everything.

* `Report` — the exit code and what is shown.
* `Plan` — a report, or one file to write first.
* `Options.plan`, `Invocation.plan` — the plan of a run, and of any list of arguments.
* `Plan.carryOut`, `Invocation.run` — the effect of a plan, and of an invocation, on a disk.
-/

namespace SnippetSync

/-- How an invocation ends. -/
structure Report where
  code : Nat
  stdout : Sink
  /-- What is shown on the standard error, which never fails. A listing whose output breaks off is a panic, and the
  message of that panic is left out. -/
  stderr : Text
  /-- A diagnostic with a snippet is among what is shown. -/
  snippet : Bool

/-- What remains to be done when everything is read. -/
inductive Plan
  | finish (r : Report)
  /-- Write a text to a path, and end in one of two ways. -/
  | write (path : Path) (text : Text) (success : Report) (fault : Fault → Report)

/-- The plan with a text shown before all else. -/
def Plan.after (shown : Text) : Plan → Plan
  | finish r => finish { r with stderr := shown ++ r.stderr }
  | write path text success fault =>
    write path text { success with stderr := shown ++ success.stderr }
      fun f => { fault f with stderr := shown ++ (fault f).stderr }

/-- The report that a plan comes to on a disk, and the disk then. -/
def Plan.carryOut (d : Disk) : Plan → Disk × Report
  | finish r => (d, r)
  | write path text success fault =>
    match d.writeText path text with
    | .ok d' => (d', success)
    | .error f => (d, fault f)

/-- The exit code when the output breaks off. -/
def brokenOutputCode : Nat := 101

def Failure.diagnostic (f : Failure) (span : Span) : Diagnostic := ⟨.error, f.message, span, "referenced here"⟩

/-- The lines that show a failure, and whether they have a snippet of the document. -/
def Failure.lines (f : Failure) (name text : Text) : Text × Bool :=
  match f.location? with
  | some (_, span) => ((f.diagnostic span).render name text, true)
  | none => (Text.concat ["error: ", f.message, "\n"], false)

def Block.staleDiagnostic (b : Block) : Diagnostic :=
  ⟨.warning, Text.concat ["block is out of date with '", b.source, "'"], b.span, []⟩

/-- The line of the listing for a block. -/
def Document.listingLine (d : Document) (name : Text) (b : Block) : Text :=
  let line := (Text.lineOf? d.text b.span.start).getD 0
  Text.concat [name, ":", Text.ofNat line, "  ", b.language, "  ", b.source, "\n"]

/-- Writes lines up to the first one that cannot be written. -/
def Sink.writeLines (s : Sink) : List Text → Sink × Option Fault
  | [] => (s, none)
  | l :: ls =>
    match s.write l with
    | (s, none) => s.writeLines ls
    | (s, some fault) => (s, some fault)

namespace Options

/-- The plan of a run whose document is read. Log lines come before all else. -/
def planFor (o : Options) (f : LogFilter) (read : Reader) (stdout : Sink) (text : Text) : Plan :=
  let document := Document.scan .standard text 0
  let scanned := Record.ofScan document.blocks
  if o.list then
    match stdout.writeLines (document.blocks.map (document.listingLine o.file)) with
    | (stdout, none) => .finish ⟨0, stdout, f.render scanned, false⟩
    | (stdout, some _) => .finish ⟨brokenOutputCode, stdout, f.render scanned, false⟩
  else
    let silent := o.quiet || o.check
    let attempt := document.inline read [] (if silent then Sink.unlimited else stdout)
    let stdout := if silent then stdout else attempt.sink
    let log := f.render (scanned ++ attempt.records)
    let fail (log : Text) (failure : Failure) : Report :=
      let (lines, snippet) := failure.lines o.file text
      ⟨1, stdout, log ++ lines, snippet⟩
    match attempt.result with
    | .error failure => .finish (fail log failure)
    | .ok u =>
      if o.check then
        let stale := u.stale
        if stale.isEmpty then .finish ⟨0, stdout, Text.concat [log, "ok: ", o.file, " is up to date\n"], false⟩
        else
          let lines := stale.flatMap fun b => b.staleDiagnostic.render o.file text
          let summary := Text.concat [Text.ofNat stale.length, " out-of-date block(s) in ", o.file, "\n"]
          .finish ⟨1, stdout, Text.concat [log, lines, summary], true⟩
      else
        let written := f.render [Record.wrote o.file u.text.byteLength,
          Record.finished o.file u.outcomes.length u.stale.length]
        .write o.file u.text ⟨0, stdout, log ++ written, false⟩ fun fault => fail log (.writeDocument o.file fault)

def plan (o : Options) (f : LogFilter) (read : Reader) (stdout : Sink) : Plan :=
  match readDocument read o.file with
  | .error failure =>
    let (lines, snippet) := failure.lines o.file []
    .finish ⟨1, stdout, lines, snippet⟩
  | .ok text => o.planFor f read stdout text

end Options

structure Invocation where
  arguments : List Text
  /-- The filter of log records, as it is written; empty if it is not given. -/
  logSpec : Text

namespace Invocation

def plan (i : Invocation) (read : Reader) (stdout : Sink) : Plan :=
  let (filter, warnings) := LogFilter.parse i.logSpec
  match Request.parse i.arguments with
  | .error e => .finish ⟨2, stdout, Text.concat [warnings, e.message, "\n"], false⟩
  | .ok .help => .finish ⟨0, (stdout.write helpText).1, warnings, false⟩
  | .ok .version => .finish ⟨0, (stdout.write versionText).1, warnings, false⟩
  | .ok (.run o) =>
    (o.plan filter read stdout).after warnings

/-- The effect of an invocation on a disk, and how it ends. -/
def run (i : Invocation) (d : Disk) (stdout : Sink) : Disk × Report := (i.plan d.readText stdout).carryOut d

end Invocation

end SnippetSync
