import SnippetSync.Disk.Basic
import SnippetSync.Fault
import SnippetSync.Text.Utf8

/-!
# Reading and writing files

A path is followed component by component; each step needs a directory to start from, also one that stays where it is or
goes up. To write needs the directory to exist, not the file.

* `Disk.walk`, `Disk.resolve` — the place that a path names.
* `Disk.readText` — the text in a file.
* `Disk.writeText` — the disk after a file is overwritten or made.
* `Disk.put`, `Disk.makeDirectory`, `Disk.removeTree`, `Disk.contents?` — changes from outside, and a look at a file.
-/

namespace SnippetSync

namespace Disk

/-- The bytes that a path must stay below. -/
def pathLimit : Nat := 4096

/-- The bytes that a name may have. -/
def nameLimit : Nat := 255

/-- Where a path begins, if it can be a path at all. -/
def origin (d : Disk) (p : Path) : Except Fault Location :=
  if p.contains '\x00' then .error .zeroInPath
  else if p.isEmpty then .error .notFound
  else if pathLimit ≤ p.byteLength then .error .nameTooLong
  else .ok (if p.isAbsolute then [] else d.home)

def requireDirectory (d : Disk) (l : Location) : Except Fault Unit :=
  match d.node? l with
  | some .directory => .ok ()
  | some _ => .error .notADirectory
  | none => .error .notFound

/-- The place one component further. -/
def enter (d : Disk) (l : Location) (name : Text) : Except Fault Location := do
  d.requireDirectory l
  if name = ['.'] then return l
  if name = ['.', '.'] then return l.dropLast
  if nameLimit < name.byteLength then throw .nameTooLong
  match d.node? (l ++ [name]) with
  | some _ => return l ++ [name]
  | none => throw .notFound

def walk (d : Disk) (l : Location) (names : List Text) : Except Fault Location := names.foldlM d.enter l

/-- The place of what a path names. -/
def resolve (d : Disk) (p : Path) : Except Fault Location := do d.walk (← d.origin p) p.components

def readNode (d : Disk) (l : Location) : Except Fault (List UInt8) :=
  match d.node? l with
  | some .directory => .error .isADirectory
  | some (.file bytes) => .ok bytes
  | some .nullDevice => .ok []
  | some (.readOnly bytes) => .ok bytes
  | none => .error .notFound

def readBytes (d : Disk) (p : Path) : Except Fault (List UInt8) := do d.readNode (← d.resolve p)

/-- The text in the file that a path names. -/
def readText (d : Disk) (p : Path) : Except Fault Text := do
  match Text.ofBytes? (← d.readBytes p) with
  | some t => return t
  | none => throw .notText

/-- The place of the file that is written under a path. It need not be there yet, but its directory. -/
def resolveTarget (d : Disk) (p : Path) : Except Fault Location := do
  let start ← d.origin p
  let directory ← d.walk start p.pieces.dropLast
  d.requireDirectory directory
  match p.pieces.getLast? with
  | none => throw .isADirectory
  | some name =>
    if p.endsInSlash || name = ['.'] || name = ['.', '.'] then throw .isADirectory
    if nameLimit < name.byteLength then throw .nameTooLong
    return directory ++ [name]

/-- The disk after the bytes are written at a place. -/
def writeNode (d : Disk) (l : Location) (bytes : List UInt8) : Except Fault Disk :=
  match d.node? l with
  | some .directory => .error .isADirectory
  | some .nullDevice => .ok d
  | some (.readOnly _) => .error .permissionDenied
  | some (.file _) => .ok (d.insert l (.file bytes))
  | none => .ok (d.insert l (.file bytes))

/-- The disk after a text is written to the file that a path names, which is made if need be. -/
def writeText (d : Disk) (p : Path) (t : Text) : Except Fault Disk := do d.writeNode (← d.resolveTarget p) t.bytes

/-! ## Changes from outside -/

/-- The place of a path whose components need not exist. -/
def place (d : Disk) (p : Path) : Location :=
  p.pieces.foldl (fun l name => if name = ['.'] then l else if name = ['.', '.'] then l.dropLast else l ++ [name])
    (if p.isAbsolute then [] else d.home)

/-- The disk with a directory at each place on the way from the root where there is nothing. -/
def makeDirectories (d : Disk) (l : Location) : Disk :=
  ((List.range (l.length + 1)).map l.take).foldl
    (fun d l => if (d.node? l).isNone then d.insert l .directory else d) d

/-- Puts a file at a path, with all directories on the way. -/
def put (d : Disk) (p : Path) (bytes : List UInt8) : Disk :=
  let l := d.place p
  (d.makeDirectories l.dropLast).insert l (.file bytes)

def makeDirectory (d : Disk) (p : Path) : Disk := d.makeDirectories (d.place p)

/-- Removes a file, or a directory with all that is in it; `none` if there is nothing. -/
def removeTree (d : Disk) (p : Path) : Option Disk :=
  match d.resolve p with
  | .ok l => some (d.remove l)
  | .error _ => none

def contents? (d : Disk) (p : Path) : Option (List UInt8) := (d.readBytes p).toOption

end Disk

end SnippetSync
