import SnippetSync.Fault
import SnippetSync.Text.Utf8

/-!
# Sinks

A sink takes the bytes written to it, all of them or those up to a limit.

* `Sink` — the limit and the bytes taken.
* `Sink.write` — one text written; `Sink.write_unlimited`, `Sink.accepted_write` say what is taken.
-/

namespace SnippetSync

/-- Something that texts are written to. -/
structure Sink where
  /-- The number of bytes it takes, and the fault when there are more. -/
  limit : Option (Nat × Fault)
  /-- The bytes taken so far. -/
  accepted : List UInt8
  deriving Repr

namespace Sink

def unlimited : Sink := ⟨none, []⟩

def limited (n : Nat) (fault : Fault) : Sink := ⟨some (n, fault), []⟩

/-- The sink after a text is written, of which it takes what it can, and the fault if that is not all. -/
def write (s : Sink) (t : Text) : Sink × Option Fault :=
  match s.limit with
  | none => ({ s with accepted := s.accepted ++ t.bytes }, none)
  | some (n, fault) =>
    let room := n - s.accepted.length
    ({ s with accepted := s.accepted ++ t.bytes.take room }, if room < t.byteLength then some fault else none)

@[simp] theorem write_unlimited (bs : List UInt8) (t : Text) :
    write ⟨none, bs⟩ t = (⟨none, bs ++ t.bytes⟩, none) := rfl

theorem accepted_write {n : Nat} {fault : Fault} {bs : List UInt8} (t : Text) (h : bs.length ≤ n) :
    (write ⟨some (n, fault), bs⟩ t).1.accepted = (bs ++ t.bytes).take n := by
  simp [write, List.take_append, List.take_of_length_le h]

end Sink

end SnippetSync
