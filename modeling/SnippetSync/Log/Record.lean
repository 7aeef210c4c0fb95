import SnippetSync.Block.Basic
import SnippetSync.Disk.Path
import SnippetSync.Edit.Basic

/-!
# Log records

What the stages of a run have to tell, each with its level and the target that tells it.

* `LogLevel` — the levels, from errors to traces.
* `Record` — a level, a target and a message; `Record.text` is its written form.
* `Record.ofScan`, `Record.spliced`, `Record.synced`, `Record.wrote`, `Record.finished` — the records there are.
-/

namespace SnippetSync

inductive LogLevel
  | error
  | warn
  | info
  | debug
  | trace
  deriving DecidableEq, Repr

namespace LogLevel

/-- The levels in order; what is less detailed comes first. -/
def rank : LogLevel → Nat
  | error => 1
  | warn => 2
  | info => 3
  | debug => 4
  | trace => 5

def name : LogLevel → Text
  | error => "ERROR"
  | warn => "WARN"
  | info => "INFO"
  | debug => "DEBUG"
  | trace => "TRACE"

end LogLevel

/-- Something a stage of a run tells. -/
structure Record where
  level : LogLevel
  target : Text
  message : Text
  deriving DecidableEq, Repr

namespace Record

def text (r : Record) : Text := Text.concat [r.level.name, " ", r.target, " ", r.message]

def found (b : Block) : Record :=
  ⟨.trace, "fence::scanner", Text.concat ["annotated block at ", b.span.text, " sourced from ", b.source]⟩

/-- What a scan tells that found these blocks. -/
def ofScan (blocks : List Block) : List Record :=
  blocks.map found ++
    [⟨.debug, "fence::scanner", Text.concat ["found ", Text.ofNat blocks.length, " annotated block(s)"]⟩]

def spliced (e : Edit) : Record :=
  ⟨.trace, "fence::splice", Text.concat ["splicing ", e.span.text, " (", Text.ofNat e.span.length, " -> ",
    Text.ofNat e.replacement.byteLength, " bytes)"]⟩

/-- The document at a path is scanned. -/
def synced (p : Path) (blocks : Nat) : Record :=
  ⟨.debug, "inliner::executor", Text.concat [p, ": ", Text.ofNat blocks, " annotated block(s)"]⟩

def wrote (p : Path) (bytes : Nat) : Record :=
  ⟨.debug, "inliner::executor", Text.concat ["wrote ", p, " (", Text.ofNat bytes, " bytes)"]⟩

def finished (name : Text) (blocks changed : Nat) : Record :=
  ⟨.info, "readme_sync", Text.concat [name, ": ", Text.ofNat blocks, " block(s), ", Text.ofNat changed, " changed"]⟩

end Record

end SnippetSync
