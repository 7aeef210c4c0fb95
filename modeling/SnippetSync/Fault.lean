import SnippetSync.Text.Basic

/-!
# Faults

What can go wrong when files are read and written.

* `Fault` — the causes, and `Fault.message`, their wording.
-/

namespace SnippetSync

/-- Why a file or an output cannot be read or written. -/
inductive Fault
  | notFound
  | permissionDenied
  /-- Something that is no directory stands where one is needed. -/
  | notADirectory
  /-- A directory stands where a file is needed. -/
  | isADirectory
  | nameTooLong
  /-- The bytes are no text. -/
  | notText
  /-- The path has a zero byte. -/
  | zeroInPath
  /-- An output that refuses what goes beyond its limit. -/
  | outputFull
  /-- An output that takes nothing beyond its limit. -/
  | nothingWritten
  | noSpace
  deriving DecidableEq, Repr

def Fault.message : Fault → Text
  | notFound => "No such file or directory (os error 2)"
  | permissionDenied => "Permission denied (os error 13)"
  | notADirectory => "Not a directory (os error 20)"
  | isADirectory => "Is a directory (os error 21)"
  | nameTooLong => "File name too long (os error 36)"
  | notText => "stream did not contain valid UTF-8"
  | zeroInPath => "file name contained an unexpected NUL byte"
  | outputFull => "sink full"
  | nothingWritten => "failed to write whole buffer"
  | noSpace => "No space left on device (os error 28)"

end SnippetSync
