import SnippetSync.Proofs.Outline
import SnippetSync.Scanner

/-!
# Appending to a document

What is appended to a text has no say in the blocks that are found in it. Where an opening near the end is cut off, or
no fence follows it yet, it stands behind the last block that is found, and so the scan of the longer text can go on
from there.

The outlines of two texts show it: the passages of the first one stay well-formed whatever follows them, so they make up
one outline with those of the tail and what is appended to it.

* `Block.move` — a block with its offsets changed, and `Block.lastStop`, where the last of some blocks ends.
* `Outline.WellFormed.append` — **outlines can be joined** behind the last passage of the first one.
* `Outline.blocksFrom_append`, `Outline.blocksFrom_add` — the blocks of joined passages, and of passages further on.
* `scanning_incremental` — **scanning is incremental.**
-/

namespace SnippetSync

def Span.move (f : Nat → Nat) (s : Span) : Span := ⟨f s.start, f s.stop⟩

namespace Block

/-- The block with all its offsets moved by `f`. -/
def move (f : Nat → Nat) (b : Block) : Block := { b with span := b.span.move f, sourceSpan := b.sourceSpan.move f }

/-- Where the last of some blocks ends; at the given offset if there is none. -/
def lastStop (offset : Nat) (bs : List Block) : Nat := (bs.getLast?.map (·.span.stop)).getD offset

@[simp] theorem lastStop_nil (offset : Nat) : lastStop offset [] = offset := rfl

@[simp] theorem lastStop_cons (offset : Nat) (b : Block) (bs : List Block) :
    lastStop offset (b :: bs) = lastStop b.span.stop bs := by
  simp only [lastStop, List.getLast?_cons]
  cases bs.getLast? <;> rfl

end Block

theorem Passage.block_add (π : Passage) (offset n : Nat) : π.block (offset + n) = (π.block offset).move (· + n) := by
  simp only [block, Opening.block, Block.move, Span.move, Nat.add_right_comm _ n]

namespace Outline

variable {ω ω' : Outline}

def joined (πs : List Passage) : Text := πs.flatMap Passage.text

def append (ω ω' : Outline) : Outline := ⟨ω.passages ++ ω'.passages, ω'.tail⟩

theorem text_eq (ω : Outline) : ω.text = joined ω.passages ++ ω.tail := rfl

theorem text_append (ω ω' : Outline) : (ω.append ω').text = joined ω.passages ++ ω'.text := by
  simp [append, text, joined]

/-- **Outlines can be joined**: the passages of a document are found whatever follows them. -/
theorem WellFormed.append (hω : ω.WellFormed) (hω' : ω'.WellFormed) : (ω.append ω').WellFormed := by
  refine ⟨fun π hπ => ?_, hω'.tail_clear⟩
  rcases List.mem_append.1 hπ with hπ | hπ
  · exact hω.passages π hπ
  · exact hω'.passages π hπ

theorem blocksFrom_append (offset : Nat) (πs πs' : List Passage) :
    blocksFrom offset (πs ++ πs') = blocksFrom offset πs ++ blocksFrom (offset + (joined πs).byteLength) πs' := by
  induction πs generalizing offset with
  | nil => simp [blocksFrom, joined]
  | cons π πs ih => simp [blocksFrom, ih, joined, Nat.add_assoc]

theorem blocksFrom_add (offset n : Nat) (πs : List Passage) :
    blocksFrom (offset + n) πs = (blocksFrom offset πs).map (·.move (· + n)) := by
  induction πs generalizing offset with
  | nil => rfl
  | cons π πs ih => rw [blocksFrom, blocksFrom, List.map_cons, π.block_add, ← ih, Nat.add_right_comm]

theorem lastStop_blocksFrom (offset : Nat) (πs : List Passage) :
    Block.lastStop offset (blocksFrom offset πs) = offset + (joined πs).byteLength := by
  induction πs generalizing offset with
  | nil => simp [blocksFrom, joined]
  | cons π πs ih =>
    rw [blocksFrom, Block.lastStop_cons, Passage.stop_block, ih]
    simp [joined, Nat.add_assoc]

/-- The last block ends where the tail begins. -/
theorem lastStop_blocks (ω : Outline) : Block.lastStop 0 ω.blocks = (joined ω.passages).byteLength := by
  rw [blocks, lastStop_blocksFrom, Nat.zero_add]

theorem blocks_append (ω ω' : Outline) :
    (ω.append ω').blocks = ω.blocks ++ ω'.blocks.map (·.move (· + (joined ω.passages).byteLength)) := by
  rw [blocks, append, blocksFrom_append, blocksFrom_add]
  rfl

end Outline

/-- **Scanning is incremental.** The last block of a text ends on a character boundary. Whatever is appended to the
text, the blocks found then are those found before and, moved by the length of what is cut off, those found in what
stands behind the last block together with what is appended. So no block that is found once is lost or changed or moves
when the text grows. -/
theorem scanning_incremental (t : Text) :
    ∃ before rest, t.cut? (Block.lastStop 0 (Scanner.standard.blocks t)) = some (before, rest) ∧
      ∀ s : Text,
        Scanner.standard.blocks (t ++ s) = Scanner.standard.blocks t ++
          (Scanner.standard.blocks (rest ++ s)).map (·.move (· + Block.lastStop 0 (Scanner.standard.blocks t))) ∧
        Scanner.standard.blocks t <+: Scanner.standard.blocks (t ++ s) := by
  obtain ⟨ω, hω, rfl⟩ := Outline.exists_of_text t
  have hblocks : Scanner.standard.blocks ω.text = ω.blocks := hω.blocks_text
  rw [hblocks, ω.lastStop_blocks]
  refine ⟨Outline.joined ω.passages, ω.tail, by rw [ω.text_eq, Text.cut?_append], fun s => ?_⟩
  obtain ⟨ω', hω', hrest⟩ := Outline.exists_of_text (ω.tail ++ s)
  have htext : ω.text ++ s = (ω.append ω').text := by
    rw [ω.text_append, hrest, ω.text_eq, List.append_assoc]
  have happend : Scanner.standard.blocks (ω.text ++ s) =
      ω.blocks ++ (Scanner.standard.blocks (ω.tail ++ s)).map
        (·.move (· + (Outline.joined ω.passages).byteLength)) := by
    rw [htext, ← hrest]
    show Text.blocks _ = _ ++ (Text.blocks _).map _
    rw [(hω.append hω').blocks_text, hω'.blocks_text, ω.blocks_append]
  exact ⟨happend, happend ▸ List.prefix_append _ _⟩

end SnippetSync
