import SnippetSync.Document
import SnippetSync.Edit.Splicer
import SnippetSync.Log.Record
import SnippetSync.Sync.Failure
import SnippetSync.Sync.Sink

/-!
# Inlining

The blocks of a document are visited from the last to the first. Each one's source is read, announced and put in place
of the body; the first thing that fails ends it all.

* `Update` — a document before and after, with what became of each block.
* `Progress.visit`, `Progress.visitAll` — one block, and a list of blocks up to the first failure.
* `Attempt` — what came of a run: its result, what its sink took, and its records.
* `Document.inline` — all blocks of a document.
-/

namespace SnippetSync

abbrev Reader := Path → Except Fault Text

structure Outcome where
  block : Block
  /-- The body was not what its source holds. -/
  changed : Bool
  deriving Repr

/-- A text before and after its blocks are inlined. -/
structure Update where
  before : Text
  text : Text
  /-- What became of the blocks, in the order of the document. -/
  outcomes : List Outcome
  deriving Repr

namespace Update

def isChanged (u : Update) : Bool := u.text != u.before

/-- The blocks whose bodies were not what their sources hold. -/
def stale (u : Update) : List Block := (u.outcomes.filter (·.changed)).map (·.block)

end Update

/-- What came of a run that can fail. -/
structure Attempt (α : Type) where
  result : Except Failure α
  sink : Sink
  records : List Record

/-- How far an inlining has come. -/
structure Progress where
  splicer : Splicer
  outcomes : List Outcome
  sink : Sink
  records : List Record

def Block.announcement (b : Block) : Text := Text.concat ["inlined ", b.source, "\n"]

namespace Progress

/-- The progress of an inlining that has not begun. -/
def ofText (t : Text) (sink : Sink) : Progress := ⟨Splicer.ofText t, [], sink, []⟩

/-- Visits one block: reads its source as seen from the base, announces it, and puts it in place. -/
def visit (read : Reader) (base : Path) (document : Nat) (p : Progress) (b : Block) : Progress × Option Failure :=
  let path := base.join b.source
  match read path with
  | .error fault => (p, some (.readSource path b.sourceSpan document fault))
  | .ok contents =>
    match p.sink.write b.announcement with
    | (sink, some fault) => ({ p with sink }, some (.output fault))
    | (sink, none) =>
      let edit : Edit := ⟨b.span, b.render contents⟩
      match p.splicer.replace edit with
      | .error refusal => ({ p with sink }, some (.splice refusal))
      | .ok splicer =>
        ({ splicer
           outcomes := ⟨b, !b.isCurrent contents⟩ :: p.outcomes
           sink
           records := p.records ++ [Record.spliced edit] }, none)

/-- Visits blocks in the order given, up to the first failure. -/
def visitAll (read : Reader) (base : Path) (document : Nat) (p : Progress) : List Block → Progress × Option Failure
  | [] => (p, none)
  | b :: bs =>
    match p.visit read base document b with
    | (p, none) => p.visitAll read base document bs
    | (p, some failure) => (p, some failure)

end Progress

/-- Puts the contents of its source in place of the body of each block. Paths are as seen from the base. -/
def Document.inline (d : Document) (read : Reader) (base : Path) (sink : Sink) : Attempt Update :=
  match (Progress.ofText d.text sink).visitAll read base d.id d.blocks.reverse with
  | (p, none) => ⟨.ok ⟨d.text, p.splicer.text, p.outcomes⟩, p.sink, p.records⟩
  | (p, some failure) => ⟨.error failure, p.sink, p.records⟩

end SnippetSync
