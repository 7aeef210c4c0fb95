import SnippetSync.Block.Basic
import SnippetSync.Text.Class
import SnippetSync.Text.Occurrence

/-!
# Openings

An opening is a fence, a language tag, a gap of spaces and tabs, and a reference which names the source, up to the end
of the line:

    ```sh  {source=scripts/run.sh}

The brace at the end may be missing, and the line may end in a carriage return and a line feed.

* `Opening` — the parts; `Opening.text` writes them.
* `Opening.parse?` — the opening at the beginning of a text, with what follows it. Of several tags that fit the
  longest counts. `Opening.eq_of_parse?` says that nothing is lost.
* `Opening.tags` — what `Opening.tagged?` finds at each place of a text, in one pass; so `Opening.head_tags` says.
-/

namespace SnippetSync

/-- What follows the language tag of an opening. -/
structure Reference where
  /-- The spaces and tabs before it. -/
  gap : Text
  source : Text
  closed : Bool
  /-- The line ends in a carriage return and a line feed. -/
  carriage : Bool
  deriving DecidableEq, Repr

/-- The opening of a block. -/
structure Opening where
  language : Text
  reference : Reference
  deriving DecidableEq, Repr

/-- The characters of the gap. -/
def isGap (c : Char) : Bool := c == ' ' || c == '\t'

/-- The characters at which a line may end. -/
def isLineEnd (c : Char) : Bool := c == '\r' || c == '\n'

/-- How a reference begins. -/
def referenceStart : Text := "\x7bsource="

/-- A line end at the beginning of a text, whether it has a carriage return, and what follows. -/
def lineEnd? : Text → Option (Bool × Text)
  | '\n' :: r => some (false, r)
  | '\r' :: '\n' :: r => some (true, r)
  | _ => none

def lineEnd (carriage : Bool) : Text := if carriage then "\r\n" else "\n"

/-- The path in the rest of an opening line, and whether a brace closes it. A brace is the path where it stands alone.
-/
def splitBrace (x : Text) : Text × Bool :=
  if x.dropLast ≠ [] ∧ x.getLast? = some '}' then (x.dropLast, true) else (x, false)

namespace Reference

def text (a : Reference) : Text :=
  a.gap ++ referenceStart ++ a.source ++ (if a.closed then ['}'] else []) ++ lineEnd a.carriage

/-- The reference at the beginning of a text, with what follows its line. -/
def parse? (t : Text) : Option (Reference × Text) := do
  let x ← Text.after? referenceStart (t.dropWhile isGap)
  let path := x.takeWhile (!isLineEnd ·)
  guard (path ≠ [])
  let (carriage, rest) ← lineEnd? (x.dropWhile (!isLineEnd ·))
  let (source, closed) := splitBrace path
  return (⟨t.takeWhile isGap, source, closed, carriage⟩, rest)

end Reference

namespace Opening

def text (o : Opening) : Text := fence ++ o.language ++ o.reference.text

/-- The longest language tag at the beginning of a text which a reference follows, the two as an opening, and what
follows them. -/
def tagged? : Text → Option (Opening × Text)
  | [] => none
  | c :: t =>
    if Text.isBlank c then none
    else match tagged? t with
      | some (o, r) => some (⟨c :: o.language, o.reference⟩, r)
      | none => (Reference.parse? t).map fun p => (⟨[c], p.1⟩, p.2)

/-- The opening at the beginning of a text, with what follows its line. -/
def parse? (t : Text) : Option (Opening × Text) := (Text.after? fence t).bind tagged?

/-- For each place of a text the longest language tag there, with what follows, as `tagged?` finds it. -/
def tags : Text → List (Option (Opening × Text))
  | [] => []
  | c :: t =>
    let later := tags t
    let here :=
      if Text.isBlank c then none
      else match later.head?.join with
        | some (o, r) => some (⟨c :: o.language, o.reference⟩, r)
        | none => (Reference.parse? t).map fun p => (⟨[c], p.1⟩, p.2)
    here :: later

theorem head_tags (t : Text) : (tags t).head?.join = tagged? t := by
  induction t with
  | nil => rfl
  | cons c t ih =>
    simp only [tags, tagged?, List.head?_cons, Option.join_some, ih]

theorem drop_tags (n : Nat) (t : Text) : (tags t).drop n = tags (t.drop n) := by
  induction n generalizing t with
  | zero => simp
  | succ n ih =>
    cases t with
    | nil => simp [tags]
    | cons c t => simp [tags, ih]

end Opening

theorem eq_of_lineEnd? {t r : Text} {b : Bool} (h : lineEnd? t = some (b, r)) : t = lineEnd b ++ r := by
  unfold lineEnd? at h
  split at h <;> simp at h <;> obtain ⟨rfl, rfl⟩ := h <;> rfl

theorem splitBrace_append (x : Text) : (splitBrace x).1 ++ (if (splitBrace x).2 then ['}'] else []) = x := by
  unfold splitBrace
  split
  · rename_i hx
    obtain ⟨y, rfl⟩ := List.getLast?_eq_some_iff.1 hx.2
    simp
  · simp

theorem Reference.eq_of_parse? {t r : Text} {a : Reference} (h : parse? t = some (a, r)) : t = a.text ++ r := by
  obtain ⟨x, hx, h⟩ := Option.bind_eq_some_iff.1 h
  obtain ⟨-, -, h⟩ := Option.bind_eq_some_iff.1 h
  obtain ⟨⟨b, rest⟩, hend, h⟩ := Option.bind_eq_some_iff.1 h
  simp only [Option.pure_def, Option.some.injEq, Prod.mk.injEq] at h
  obtain ⟨rfl, rfl⟩ := h
  simp only [text, List.append_assoc]
  rw [← List.append_assoc _ _ (lineEnd b ++ _), splitBrace_append, ← eq_of_lineEnd? hend,
    List.takeWhile_append_dropWhile, ← Text.after?_eq_some_iff.1 hx, List.takeWhile_append_dropWhile]

theorem Opening.eq_of_tagged? {t r : Text} {o : Opening} (h : tagged? t = some (o, r)) :
    t = o.language ++ o.reference.text ++ r := by
  induction t generalizing o r with
  | nil => simp [tagged?] at h
  | cons c t ih =>
    unfold tagged? at h
    split at h
    · simp at h
    split at h
    · rename_i o' r' h'
      obtain ⟨rfl, rfl⟩ : _ = o ∧ r' = r := by simpa using h
      simpa using ih h'
    · simp only [Option.map_eq_some_iff, Prod.exists, Prod.mk.injEq] at h
      obtain ⟨a, r', h', rfl, rfl⟩ := h
      simpa using Reference.eq_of_parse? h'

theorem Opening.eq_of_parse? {t r : Text} {o : Opening} (h : parse? t = some (o, r)) : t = o.text ++ r := by
  simp only [parse?, Option.bind_eq_some_iff] at h
  obtain ⟨x, hx, h⟩ := h
  rw [Text.after?_eq_some_iff.1 hx, eq_of_tagged? h]
  simp [text]

end SnippetSync
