import SnippetSync.Pattern.Program

/-!
# Searching a text

A program is run over a text by threads that all stand at the same place, in order of preference. Between two characters
each thread goes on until it waits for a character, accepts or fails; of two threads at one instruction the less
preferred is dropped, and a thread that accepts drops all less preferred ones. Then the waiting threads read one
character. As long as nothing is matched one more thread starts at each place, less preferred than all before it: so the
match found is the leftmost, and of those the one preferred most.

* `Cursor` — a place in a text.
* `Match` — what a program matched, and the parts of a block in it.
* `Program.follow` — what becomes of the threads before the next character.
* `Program.find?` — the first match at or after a cursor.
* `Program.findAll` — all matches, none beginning before the one before it ended.
-/

namespace SnippetSync

structure Cursor where
  before : Option Char
  /-- The bytes before the place. -/
  offset : Nat
  rest : Text
  deriving Repr

namespace Cursor

def ofText (t : Text) : Cursor := ⟨none, 0, t⟩

/-- The place after one character `c` which `rest` follows. -/
def step (o : Cursor) (c : Char) (rest : Text) : Cursor := ⟨some c, o.offset + c.utf8Size, rest⟩

def satisfies (o : Cursor) (a : Anchor) : Bool := a.holds o.before o.rest.head?

/-- The first place at or after the cursor that is at or after the given offset, or the end of the text. -/
def seek (stop : Nat) (o : Cursor) : Cursor :=
  match o with
  | ⟨before, offset, rest⟩ => go before offset rest
where
  /-- `seek` on the parts of a cursor. -/
  go (before : Option Char) (offset : Nat) : Text → Cursor
    | [] => ⟨before, offset, []⟩
    | c :: rest =>
      if stop ≤ offset then ⟨before, offset, c :: rest⟩ else go (some c) (offset + c.utf8Size) rest

theorem length_seek_le (stop : Nat) (o : Cursor) : (o.seek stop).rest.length ≤ o.rest.length := by
  obtain ⟨before, offset, rest⟩ := o
  show (seek.go stop before offset rest).rest.length ≤ rest.length
  induction rest generalizing before offset with
  | nil => simp [seek.go]
  | cons c rest ih =>
    unfold seek.go
    split
    · simp
    · exact Nat.le_succ_of_le (ih _ _)

end Cursor

/-- A match of a pattern: where it lies, and where the parts of a block lie that took part in it. -/
structure Match where
  span : Span
  fields : Fields (Option Span)
  deriving Repr

structure Thread where
  address : Nat
  /-- The offset at which it started. -/
  start : Nat
  /-- Where each part of a block was last entered. -/
  entered : Fields Nat
  /-- The parts of a block left so far. -/
  fields : Fields (Option Span)
  deriving Repr

namespace Thread

def fresh (offset : Nat) : Thread := ⟨0, offset, Fields.const offset, Fields.const none⟩

def goto (t : Thread) (address : Nat) : Thread := { t with address }

def next (t : Thread) : Thread := t.goto (t.address + 1)

def enter (t : Thread) (f : Field) (offset : Nat) : Thread := { t with entered := t.entered.set f offset }

def leave (t : Thread) (f : Field) (offset : Nat) : Thread :=
  { t with fields := t.fields.set f (some ⟨t.entered.get f, offset⟩) }

/-- What the thread has matched when it accepts at an offset. -/
def accept (t : Thread) (offset : Nat) : Match := ⟨⟨t.start, offset⟩, t.fields⟩

end Thread

/-- The number of instructions that no thread has reached. -/
def unreached (seen : Array Bool) : Nat := seen.countP (!·)

theorem unreached_set {seen : Array Bool} {i : Nat} (h : i < seen.size) (hi : seen[i] = false) :
    unreached (seen.set i true) + 1 = unreached seen := by
  have hpos : 0 < seen.countP (!·) := Array.countP_pos_iff.2 ⟨seen[i], Array.getElem_mem h, by simp [hi]⟩
  simp only [unreached, Array.countP_set, hi, Bool.not_false, if_true, Bool.not_true, Bool.false_eq_true, if_false]
  omega

namespace Program

/-- What becomes of the threads before the next character: those that wait for it, in order of preference, and the match
of the first one that accepts. `seen` marks the instructions that a preferred thread has reached here. -/
def follow (p : Program) (o : Cursor) (threads : List Thread) (seen : Array Bool) : List Thread × Option Match :=
  match threads with
  | [] => ([], none)
  | t :: ts =>
    if h : t.address < seen.size then
      if hs : seen[t.address] then follow p o ts seen
      else
        have := unreached_set h (by simpa using hs)
        let seen := seen.set t.address true
        match p[t.address]? with
        | none => follow p o ts seen
        | some .accept => ([], some (t.accept o.offset))
        | some (.read _) =>
          let (waiting, found) := follow p o ts seen
          (t :: waiting, found)
        | some (.check a) => if o.satisfies a then follow p o (t.next :: ts) seen else follow p o ts seen
        | some (.jump target) => follow p o (t.goto target :: ts) seen
        | some (.fork first second) => follow p o (t.goto first :: t.goto second :: ts) seen
        | some (.enter f) => follow p o ((t.enter f o.offset).next :: ts) seen
        | some (.leave f) => follow p o ((t.leave f o.offset).next :: ts) seen
    else follow p o ts seen
termination_by 2 * unreached seen + threads.length

/-- The thread after reading a character, if it waits for such a one. -/
def read? (p : Program) (c : Char) (t : Thread) : Option Thread :=
  match p[t.address]? with
  | some (.read s) => if s.contains c then some t.next else none
  | _ => none

/-- The threads between two characters, with one more that starts here if nothing is found yet. -/
def candidates (threads : List Thread) (found : Option Match) (offset : Nat) : List Thread :=
  if found.isNone then threads ++ [Thread.fresh offset] else threads

/-- The match that threads at a place lead to, `found` being what a less preferred one has found. -/
def run (p : Program) (threads : List Thread) (found : Option Match) (before : Option Char) (offset : Nat)
    (rest : Text) : Option Match :=
  let (waiting, new) := p.follow ⟨before, offset, rest⟩ (candidates threads found offset) (Array.replicate p.size false)
  let found := new.or found
  match rest with
  | [] => found
  | c :: rest =>
    if waiting.isEmpty && found.isSome then found
    else p.run (waiting.filterMap (p.read? c)) found (some c) (offset + c.utf8Size) rest

/-- The leftmost match that begins at the cursor or after it. -/
def find? (p : Program) (o : Cursor) : Option Match := p.run [] none o.before o.offset o.rest

/-- The matches from a cursor on. After a match that took no character the search goes on one character later. An empty
match that lies where the match before it ended, `afterMatch`, does not count. -/
def findFrom (p : Program) (afterMatch : Bool) (o : Cursor) : List Match :=
  match p.find? o with
  | none => []
  | some m =>
    match h : o.rest with
    | [] => if afterMatch then [] else [m]
    | c :: rest =>
      have : (o.step c rest).rest.length < o.rest.length := by simp [h, Cursor.step]
      if m.span.stop ≤ o.offset then
        let later := p.findFrom false (o.step c rest)
        if afterMatch then later else m :: later
      else
        have := Cursor.length_seek_le m.span.stop (o.step c rest)
        m :: p.findFrom true ((o.step c rest).seek m.span.stop)
termination_by o.rest.length

/-- The matches in a text, in the order in which they stand. -/
def findAll (p : Program) (t : Text) : List Match := p.findFrom false (Cursor.ofText t)

end Program

end SnippetSync
