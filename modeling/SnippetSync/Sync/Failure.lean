import SnippetSync.Disk.Path
import SnippetSync.Edit.Basic
import SnippetSync.Fault

/-!
# Failures of a sync

* `Failure` — what can make a sync fail.
* `Failure.message`, `Failure.cause` — the wording, and that of what lies beneath.
* `Failure.location?` — the place in a document that the failure points at.
-/

namespace SnippetSync

inductive Failure
  | readDocument (path : Path) (fault : Fault)
  /-- A source cannot be read. Its path stands at `span` in the document with this number. -/
  | readSource (path : Path) (span : Span) (document : Nat) (fault : Fault)
  | writeDocument (path : Path) (fault : Fault)
  | output (fault : Fault)
  | splice (refusal : Refusal)
  deriving DecidableEq, Repr

namespace Failure

/-- The wording of what lies beneath a failure. -/
def cause : Failure → Text
  | readDocument _ fault => fault.message
  | readSource _ _ _ fault => fault.message
  | writeDocument _ fault => fault.message
  | output fault => fault.message
  | splice refusal => refusal.message

def message (f : Failure) : Text :=
  match f with
  | readDocument path _ => Text.concat ["cannot read '", path, "': ", f.cause]
  | readSource path _ _ _ => Text.concat ["cannot read source file '", path, "': ", f.cause]
  | writeDocument path _ => Text.concat ["cannot write '", path, "': ", f.cause]
  | output _ => Text.concat ["cannot write output: ", f.cause]
  | splice _ => f.cause

/-- The document and the span in it that a failure points at. -/
def location? : Failure → Option (Nat × Span)
  | readSource _ span document _ => some (document, span)
  | _ => none

end Failure

end SnippetSync
