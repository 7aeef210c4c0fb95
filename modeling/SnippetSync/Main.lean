import SnippetSync.Command.Run

/-!
# The command line

Everything is decided by `Invocation.plan`; here files are read for it and its plan is carried out.

* `main` — runs the command on the arguments, the filter of log records being the value of `README_SYNC_LOG`.

The variable is one of the command's own. The one that programs with such filters share is left alone, so that a filter
meant for another program shows nothing here. All else depends on its value only, which is `Invocation.logSpec`.
-/

namespace SnippetSync

/-- The code of an error is this number, which some calls give negated. -/
def isErrorCode (code number : UInt32) : Bool := code == number || code == 0 - number

def Fault.ofSystem : IO.Error → Fault
  | .noFileOrDirectory .. => .notFound
  | .permissionDenied .. => .permissionDenied
  | .inappropriateType _ code _ => if isErrorCode code 20 then .notADirectory else .isADirectory
  | .invalidArgument _ code _ => if isErrorCode code 36 then .nameTooLong else .notFound
  | .resourceExhausted .. => .noSpace
  | _ => .notFound

def loadText (p : Path) : IO (Except Fault Text) := do
  if p.contains '\x00' then return .error .zeroInPath
  try
    let bytes ← IO.FS.readBinFile (String.ofList p)
    return (Text.ofBytes? bytes.toList).elim (.error .notText) .ok
  catch e => return .error (Fault.ofSystem e)

def storeText (p : Path) (t : Text) : IO (Option Fault) := do
  if p.contains '\x00' then return some .zeroInPath
  try
    IO.FS.writeBinFile (String.ofList p) t.bytes.toByteArray
    return none
  catch e => return some (Fault.ofSystem e)

/-- What is read of the files that an invocation may ask for: the document and the sources of its blocks. -/
def Invocation.load (i : Invocation) : IO (List (Path × Except Fault Text)) := do
  match Request.parse i.arguments with
  | .ok (.run o) =>
    let document ← loadText o.file
    match document with
    | .ok t =>
      let sources ← t.blocks.mapM fun b => do return (b.source, ← loadText b.source)
      return (o.file, document) :: sources
    | .error _ => return [(o.file, document)]
  | _ => return []

/-- Shows a report; its exit code is the answer. -/
def Report.present (r : Report) : IO UInt32 := do
  (← IO.getStdout).write r.stdout.accepted.toByteArray
  IO.eprint (String.ofList r.stderr)
  return r.code.toUInt32

def Plan.execute : Plan → IO UInt32
  | .finish r => r.present
  | .write path text success fault => do
    match ← storeText path text with
    | none => success.present
    | some f => (fault f).present

def Invocation.execute (i : Invocation) : IO UInt32 := do
  let files ← i.load
  let read : Reader := fun p => (files.lookup p).getD (.error .notFound)
  (i.plan read Sink.unlimited).execute

end SnippetSync

def main (arguments : List String) : IO UInt32 := do
  let spec := (← IO.getEnv "README_SYNC_LOG").getD ""
  SnippetSync.Invocation.execute ⟨arguments.map String.toList, spec.toList⟩
