/-!
# Characters as ranges of bytes

A range of characters, written in UTF-8, is a list of sequences of byte ranges.

* `ByteRange` — the bytes between two.
* `ByteRange.spell` — the sequences for code points of one length.
* `ByteRange.sequences` — the sequences for all characters between two code points, in increasing order.
-/

namespace SnippetSync

structure ByteRange where
  lo : Nat
  hi : Nat
  deriving DecidableEq, Repr

namespace ByteRange

def continuation : ByteRange := ⟨0x80, 0xBF⟩

/-- The sequences of a first byte and `n` that continue it, six bits each, for the numbers from `lo` to `hi`; `lead` is
what the first byte adds to its bits. The numbers below the first multiple of a block and those behind the last one are
spelled on their own. -/
def spell (lead lo hi : Nat) : Nat → List (List ByteRange)
  | 0 => [[⟨lead + lo, lead + hi⟩]]
  | n + 1 =>
    let block := 64 ^ (n + 1)
    let within (q a b : Nat) := (spell 0x80 a b n).map (⟨lead + q, lead + q⟩ :: ·)
    let (first, last) := (lo / block, hi / block)
    if first = last then within first (lo % block) (hi % block)
    else
      let (start, before) := if lo % block = 0 then (first, []) else (first + 1, within first (lo % block) (block - 1))
      let (stop, after) := if hi % block = block - 1 then (last + 1, []) else (last, within last 0 (hi % block))
      let whole := if start < stop then [⟨lead + start, lead + stop - 1⟩ :: List.replicate (n + 1) continuation] else []
      before ++ whole ++ after

/-- The ranges of code points that are written alike: how many bytes follow the first one, what this one adds to its
bits, and the first and the last code point. The halves of surrogate pairs are no characters. -/
def planes : List (Nat × Nat × Nat × Nat) :=
  [(0, 0, 0, 0x7F), (1, 0xC0, 0x80, 0x7FF), (2, 0xE0, 0x800, 0xD7FF), (2, 0xE0, 0xE000, 0xFFFF),
    (3, 0xF0, 0x10000, 0x10FFFF)]

/-- The sequences of bytes that write the characters from `lo` to `hi`. -/
def sequences (lo hi : Nat) : List (List ByteRange) :=
  planes.flatMap fun (n, lead, first, last) =>
    if max lo first ≤ min hi last then spell lead (max lo first) (min hi last) n else []

end ByteRange

end SnippetSync
