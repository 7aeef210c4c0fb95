import SnippetSync.Disk.Path

/-!
# Disks

A disk is a tree of directories and files, kept as a list of places and what stands there. One directory is the home of
relative paths.

Such a disk is simpler than those of a real system. It has no links. Its names are texts, so that a name of other bytes
does not occur. All that stands on it may be read, and a write finds room. A read that is not permitted and a write that
lacks room are faults of real files alone.

* `Node` — what can stand at a place.
* `Location` — a place, as the names on the way from the root.
* `Disk.node?`, `Disk.insert`, `Disk.remove` — look-up and change; `Disk.node?_insert` says what stands where after an
  insertion.
-/

namespace SnippetSync

inductive Node
  | directory
  | file (bytes : List UInt8)
  /-- A device that reads as nothing and swallows what is written. -/
  | nullDevice
  /-- A file that cannot be written. -/
  | readOnly (bytes : List UInt8)
  deriving DecidableEq, Repr

/-- A place on a disk: the names on the way there from the root. -/
abbrev Location := List Text

structure Disk where
  /-- The directory in which relative paths begin. -/
  home : Location
  /-- What stands where; the root is always a directory. -/
  nodes : List (Location × Node)
  deriving Repr

namespace Disk

def node? (d : Disk) (l : Location) : Option Node := if l = [] then some .directory else d.nodes.lookup l

def insert (d : Disk) (l : Location) (n : Node) : Disk := { d with nodes := (l, n) :: d.nodes }

/-- The disk without what stands at a place or below it. -/
def remove (d : Disk) (l : Location) : Disk := { d with nodes := d.nodes.filter (!l.isPrefixOf ·.1) }

@[simp] theorem node?_nil (d : Disk) : d.node? [] = some .directory := rfl

theorem node?_insert (d : Disk) (l : Location) (n : Node) (l' : Location) :
    (d.insert l n).node? l' = if l' ≠ [] ∧ l' = l then some n else d.node? l' := by
  by_cases h : l' = []
  · simp [h]
  · by_cases hl : l' = l
    · subst hl; simp [node?, insert, h]
    · have : (l' == l) = false := by simpa using hl
      simp [node?, insert, h, hl, List.lookup_cons, this]

end Disk

end SnippetSync
