import SnippetSync.Disk.Access
import SnippetSync.Sync.Inline

/-!
# Syncing a document on a disk

* `readDocument` — the text of a document.
* `Update.writeTo` — writes an updated text, also one that is not changed.
* `Inliner` — a scanner and a base directory; `Inliner.sync` reads and inlines, `Inliner.syncInPlace` writes too.
-/

namespace SnippetSync

/-- The text of the document at a path. -/
def readDocument (read : Reader) (p : Path) : Except Failure Text := (read p).mapError (.readDocument p)

def Update.writeTo (u : Update) (d : Disk) (p : Path) : Except Failure Disk :=
  (d.writeText p u.text).mapError (.writeDocument p)

/-- How documents are synced. -/
structure Inliner where
  scanner : Scanner
  /-- The directory from which paths of sources are seen; empty for the working directory. -/
  base : Path

namespace Inliner

/-- Finds blocks of the standard form and sees paths from the working directory. -/
def standard : Inliner := ⟨.standard, []⟩

/-- Reads the document at a path and inlines its blocks; nothing is written. -/
def sync (i : Inliner) (d : Disk) (p : Path) (sink : Sink) : Attempt Update :=
  match readDocument d.readText p with
  | .error failure => ⟨.error failure, sink, []⟩
  | .ok text =>
    let document := Document.scan i.scanner text 0
    let attempt := document.inline d.readText i.base sink
    { attempt with
      records := Record.ofScan document.blocks ++ Record.synced p document.blocks.length :: attempt.records }

/-- Syncs the document at a path and overwrites it with the result. -/
def syncInPlace (i : Inliner) (d : Disk) (p : Path) (sink : Sink) : Disk × Attempt Update :=
  let attempt := i.sync d p sink
  match attempt.result with
  | .error _ => (d, attempt)
  | .ok u =>
    match u.writeTo d p with
    | .error failure => (d, { attempt with result := .error failure })
    | .ok d' => (d', { attempt with records := attempt.records ++ [Record.wrote p u.text.byteLength] })

end Inliner

end SnippetSync
