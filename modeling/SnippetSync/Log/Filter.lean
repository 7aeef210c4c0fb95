import SnippetSync.Log.Record
import SnippetSync.Pattern.Compile
import SnippetSync.Pattern.Search
import SnippetSync.Text.Class

/-!
# Log filters

A filter says which records are shown. It is written as a list of directives between commas: a level for all targets, a
target with a level, or a target alone, of which everything is shown. The longest target that begins the target of a
record decides. After a slash a pattern for the messages may follow.

* `Directive`, `LogFilter` — directives and filters.
* `LogFilter.parse` — the filter that a text writes, with warnings about directives that are none.
* `LogFilter.shows` — the filter lets a record through.
* `LogFilter.render` — the lines for the records that are shown, without the time of each.
-/

namespace SnippetSync

/-- How much is shown of the targets that begin with a name. -/
structure Directive where
  /-- The beginning of the targets; of all targets if missing. -/
  target : Option Text
  /-- The highest rank shown; zero shows nothing. -/
  rank : Nat
  deriving DecidableEq, Repr

structure LogFilter where
  /-- The directives in the order in which their targets were first given. -/
  directives : List Directive
  /-- What has to match somewhere in a message. -/
  message : Option Program

namespace LogFilter

def rankOfName? (name : Text) : Option Nat :=
  [(("OFF" : Text), 0), ("ERROR", 1), ("WARN", 2), ("INFO", 3), ("DEBUG", 4), ("TRACE", 5)].lookup
    (name.map Char.toUpper)

def trim (t : Text) : Text := ((t.dropWhile Text.isBlank).reverse.dropWhile Text.isBlank).reverse

/-- The directives with one added, in place of an earlier one for the same target. -/
def add (ds : List Directive) (d : Directive) : List Directive :=
  if ds.any (·.target == d.target) then ds.map fun d' => if d'.target == d.target then d else d' else ds ++ [d]

/-- The directive that a text between commas writes, or what is wrong in it. -/
def directive (s : Text) : Except Text Directive :=
  match s.splitOnP (· == '=') with
  | [part] =>
    match rankOfName? part with
    | some rank => .ok ⟨none, rank⟩
    | none => .ok ⟨some part, LogLevel.trace.rank⟩
  | [target, level] =>
    let level := trim level
    if level.isEmpty then .ok ⟨some target, LogLevel.trace.rank⟩
    else match rankOfName? level with
      | some rank => .ok ⟨some target, rank⟩
      | none => .error level
  | _ => .error s

def warning (s remark : Text) : Text :=
  Text.concat ["warning: invalid logging spec '", s, "', ignoring it", remark, "\n"]

/-- The directives of a list with commas, and warnings about those that are none. -/
def parseDirectives (t : Text) : List Directive × Text :=
  let parts := ((t.splitOnP (· == ',')).map trim).filter (!·.isEmpty)
  parts.foldl
    (fun (ds, warnings) s =>
      match directive s with
      | .ok d => (add ds d, warnings)
      | .error what => (ds, warnings ++ warning what []))
    (([] : List Directive), ([] : Text))

def parseMessage (t : Text) : Option Program × Text :=
  match Expr.ofText t with
  | .ok e => (some e.program, [])
  | .error e => (none, Text.concat ["warning: invalid regex filter - ", e.message, "\n"])

/-- The directives that hold if none is given: errors are shown. -/
def defaultDirectives : List Directive := [⟨none, LogLevel.error.rank⟩]

/-- The filter that a text writes, with the warnings about what is ignored. -/
def parse (spec : Text) : LogFilter × Text :=
  let (directives, message, warnings) := match spec.splitOnP (· == '/') with
    | [ds] =>
      let (directives, warnings) := parseDirectives ds
      (directives, none, warnings)
    | [ds, m] =>
      let (directives, warnings) := parseDirectives ds
      let (message, warning) := parseMessage m
      (directives, message, warnings ++ warning)
    | _ => ([], none, warning spec " (too many '/'s)")
  (⟨if directives.isEmpty then defaultDirectives else directives, message⟩, warnings)

def targetLength (d : Directive) : Nat := d.target.elim 0 Text.byteLength

/-- The directive that decides about a target: of those that apply the one with the longest target, a later one if two
are equally long. -/
def deciding? (f : LogFilter) (target : Text) : Option Directive :=
  (f.directives.filter fun d => d.target.all (·.isPrefixOf target)).foldl
    (fun best d => if best.any (targetLength d < targetLength ·) then best else some d) none

def shows (f : LogFilter) (r : Record) : Bool :=
  (f.deciding? r.target).any (r.level.rank ≤ ·.rank) && f.message.all (·.find? (Cursor.ofText r.message) |>.isSome)

/-- A message with all its lines but the first indented. -/
def indented (message : Text) : Text :=
  message.flatMap fun c => if c = '\n' then c :: List.replicate 4 ' ' else [c]

/-- A record as it is shown, its level padded to five characters. The time stamp that stands before the level is left
out: a record has no time. -/
def line (r : Record) : Text :=
  let level := r.level.name
  Text.concat ["[", level, List.replicate (5 - level.length) ' ', " ", r.target, "] ", indented r.message, "\n"]

def render (f : LogFilter) (rs : List Record) : Text := (rs.filter f.shows).flatMap line

end LogFilter

end SnippetSync
