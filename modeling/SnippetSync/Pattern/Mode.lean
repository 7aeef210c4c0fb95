import SnippetSync.Pattern.Basic

/-!
# Modes

A mode is the set of flags under which a part of a pattern is read.

* `Mode` — the flags.
* `Mode.skip` — drops the blanks and comments before the next character, in extended mode; `Mode.takeWhile` reads on
  past them, `Mode.peek?` looks past them.
* `Mode.digit`, `Mode.cased` and others — what classes, dots and anchors stand for.
* `Mode.readFlags?` — reads the flags of a group such as `(?i-s:`.
-/

namespace SnippetSync

/-- The flags under which a part of a pattern is read. -/
structure Mode where
  /-- Letters match in either case. -/
  ignoreCase : Bool := false
  /-- The line anchors match at every line. -/
  multiLine : Bool := false
  /-- The dot matches a line feed too. -/
  dotAll : Bool := false
  /-- A carriage return ends a line as a line feed does. -/
  carriage : Bool := false
  /-- Repetitions prefer less, unless marked. -/
  lazyFirst : Bool := false
  /-- Blanks and comments do not count. -/
  extended : Bool := false
  /-- Classes know the characters of ASCII alone. -/
  ascii : Bool := false
  deriving DecidableEq, Repr

namespace Mode

/-- The mode with the flag of this letter turned on or off. -/
def set? (m : Mode) (letter : Char) (on : Bool) : Option Mode :=
  match letter with
  | 'i' => some { m with ignoreCase := on }
  | 'm' => some { m with multiLine := on }
  | 's' => some { m with dotAll := on }
  | 'R' => some { m with carriage := on }
  | 'U' => some { m with lazyFirst := on }
  | 'x' => some { m with extended := on }
  | 'u' => some { m with ascii := !on }
  | _ => none

/-- Drops blanks and comments; `inComment` if a comment has begun. -/
def skipIgnored (inComment : Bool) : Text → Text
  | [] => []
  | c :: t =>
    if inComment then skipIgnored (c != '\n') t
    else if Text.isBlank c then skipIgnored false t
    else if c == '#' then skipIgnored true t
    else c :: t

/-- What is left when blanks and comments are dropped, if the mode says so. -/
def skip (m : Mode) (t : Text) : Text := if m.extended then skipIgnored false t else t

theorem length_skipIgnored_le (b : Bool) (t : Text) : (skipIgnored b t).length ≤ t.length := by
  induction t generalizing b with
  | nil => simp [skipIgnored]
  | cons c t ih =>
    unfold skipIgnored
    split
    · exact Nat.le_succ_of_le (ih _)
    split
    · exact Nat.le_succ_of_le (ih _)
    split
    · exact Nat.le_succ_of_le (ih _)
    · simp

theorem length_skip_le (m : Mode) (t : Text) : (m.skip t).length ≤ t.length := by
  unfold skip
  split
  · exact length_skipIgnored_le false t
  · simp

/-- The characters in front that satisfy `p`, without what is ignored between and behind them, and what follows. -/
def takeWhile (m : Mode) (p : Char → Bool) : Text → Text × Text
  | [] => ([], [])
  | c :: t =>
    if p c then
      have := m.length_skip_le t
      let (taken, rest) := m.takeWhile p (m.skip t)
      (c :: taken, rest)
    else ([], c :: t)
termination_by t => t.length

/-- The next character that counts. A number sign with blanks around it is looked past, but not the comment it begins.
-/
def peek? (m : Mode) (t : Text) : Option Char :=
  if m.extended then
    match t.dropWhile Text.isBlank with
    | '#' :: r => (r.dropWhile Text.isBlank).head?
    | r => r.head?
  else t.head?

/-- A class for all scripts and one for ASCII, the one that the mode knows. -/
def pick {α : Type} (m : Mode) (wide ascii : α) : α := if m.ascii then ascii else wide

def digit (m : Mode) : CharSet := m.pick .digit .asciiDigit

def blank (m : Mode) : CharSet := m.pick .blank .asciiBlank

def word (m : Mode) : CharSet := m.pick .word .asciiWord

def cased (m : Mode) (s : CharSet) : CharSet := if m.ignoreCase then m.pick s.fold s.asciiFold else s

/-- The characters that are not in a set, if the mode knows them. -/
def compl? (m : Mode) (s : CharSet) : Option CharSet := m.pick (some s.compl) none

def knows (m : Mode) (c : Char) : Bool := m.pick true (c.toNat < 0x80)

/-- The set that the dot stands for. -/
def dot? (m : Mode) : Option CharSet :=
  if m.dotAll then m.compl? .empty
  else if m.carriage then m.compl? (.union (.one '\n') (.one '\r'))
  else m.compl? (.one '\n')

def hat (m : Mode) : Anchor := if m.multiLine then if m.carriage then .anyLineStart else .lineStart else .textStart

def dollar (m : Mode) : Anchor := if m.multiLine then if m.carriage then .anyLineEnd else .lineEnd else .textEnd

/-- The flags after a question mark up to a colon or a closing parenthesis: the new mode, whether there is no flag,
whether the group is closed, and what follows. The characters read before are `used`, last first; none may come twice,
and those after a minus are turned off. -/
def readFlags? (m : Mode) (used : List Char) : Text → Option (Mode × Bool × Bool × Text)
  | [] => none
  | c :: t =>
    if c == ':' || c == ')' then
      if used.head? == some '-' then none else some (m, used.isEmpty, c == ')', t)
    else if used.contains c then none
    else if c == '-' then m.readFlags? (c :: used) t
    else match m.set? c (!used.contains '-') with
      | none => none
      | some m => m.readFlags? (c :: used) t

end Mode

end SnippetSync
