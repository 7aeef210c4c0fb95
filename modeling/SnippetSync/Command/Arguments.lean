import SnippetSync.Text.Basic

/-!
# Arguments

The arguments of the command are read from left to right. Help and version are answered as soon as they are met, and
what is unknown fails as soon as it is met. That the document is given as an empty text is noticed at the next option
or at the end, and what does not go together when all arguments are read.

* `Flag` — the options that can be given.
* `Options` — what a run is told.
* `UsageError` — what can be wrong, with its wording `UsageError.message`.
* `Request.parse` — the request that a list of arguments makes.
-/

namespace SnippetSync

inductive Flag
  /-- Report stale blocks, write nothing. -/
  | check
  /-- List the blocks, read no source. -/
  | list
  /-- Announce nothing. -/
  | quiet
  /-- Show diagnostics without colour. -/
  | noColor
  deriving DecidableEq, Repr

inductive OptionName
  | flag (f : Flag)
  | help
  | version
  deriving DecidableEq, Repr

namespace OptionName

def all : List OptionName := [flag .check, flag .list, flag .quiet, flag .noColor, help, version]

/-- The long name of an option, without its minus signs. -/
def long : OptionName → Text
  | flag .check => "check"
  | flag .list => "list"
  | flag .quiet => "quiet"
  | flag .noColor => "no-color"
  | help => "help"
  | version => "version"

def short? : OptionName → Option Char
  | flag .quiet => some 'q'
  | help => some 'h'
  | version => some 'V'
  | _ => none

def written (o : OptionName) : Text := "--" ++ o.long

end OptionName

inductive UsageError
  | unexpected (argument : Text)
  /-- A value is given to an option that takes none. -/
  | unexpectedValue (value : Text) (option : OptionName)
  | repeated (f : Flag)
  | conflict (first second : Flag)
  /-- The document is given as an empty text. -/
  | missingFile
  deriving DecidableEq, Repr

def UsageError.message : UsageError → Text
  | unexpected a => Text.concat ["error: unexpected argument '", a, "' found"]
  | unexpectedValue v o =>
    Text.concat ["error: unexpected value '", v, "' for '", o.written, "' found; no more were expected"]
  | repeated f => Text.concat ["error: the argument '", (OptionName.flag f).written, "' cannot be used multiple times"]
  | conflict a b =>
    Text.concat ["error: the argument '", (OptionName.flag a).written, "' cannot be used with '",
      (OptionName.flag b).written, "'"]
  | missingFile => "error: a value is required for '[FILE]' but none was supplied"

/-- What a run is told. -/
structure Options where
  file : Text
  check : Bool
  list : Bool
  quiet : Bool
  noColor : Bool
  deriving DecidableEq, Repr

inductive Request
  | run (o : Options)
  | help
  | version
  deriving DecidableEq, Repr

namespace Request

/-- What is read so far of the arguments. -/
structure Reading where
  /-- The flags given, last first. -/
  flags : List Flag
  file : Option Text
  deriving Repr

/-- An answer that ends the reading, or the reading after one more option. -/
abbrev Step := Except (Except UsageError Request) Reading

namespace Reading

/-- A flag is given, help or version asked for. A document given before has to be more than an empty text by now. -/
def option (r : Reading) (o : OptionName) : Step :=
  if r.file = some [] then .error (.error .missingFile)
  else match o with
    | .flag f => if r.flags.contains f then .error (.error (.repeated f)) else .ok { r with flags := f :: r.flags }
    | .help => .error (.ok .help)
    | .version => .error (.ok .version)

/-- A document is given; there can be only one. -/
def positional (r : Reading) (a : Text) : Step :=
  if r.file.isSome then .error (.error (.unexpected a)) else .ok { r with file := some a }

/-- An argument after two minus signs: the name of an option, which takes no value. -/
def longOption (r : Reading) (a : Text) : Step :=
  let name := a.takeWhile (· != '=')
  match OptionName.all.find? (·.long == name) with
  | none => .error (.error (.unexpected ("--" ++ name)))
  | some o =>
    match a.dropWhile (· != '=') with
    | [] => r.option o
    | _ :: value => .error (.error (.unexpectedValue value o))

/-- The letters after one minus sign, each an option. -/
def shortOption (r : Reading) (c : Char) : Step :=
  match OptionName.all.find? (·.short? == some c) with
  | none => .error (.error (.unexpected ['-', c]))
  | some o => r.option o

def defaultFile : Text := "README.md"

def finish (r : Reading) : Except UsageError Request :=
  if r.file = some [] then .error .missingFile
  else match r.flags.reverse.filter fun f => f = .check ∨ f = .list with
    | first :: second :: _ => .error (.conflict first second)
    | _ =>
      .ok (.run {
        file := r.file.getD defaultFile
        check := r.flags.contains .check
        list := r.flags.contains .list
        quiet := r.flags.contains .quiet
        noColor := r.flags.contains .noColor })

/-- Reads the arguments from left to right; behind two minus signs alone there are only documents. -/
def toEnd (r : Reading) (optionsEnded : Bool) : List Text → Except UsageError Request
  | [] => r.finish
  | a :: as =>
    if !optionsEnded && a = ['-', '-'] then r.toEnd true as
    else
      let step : Step :=
        match optionsEnded, a with
        | false, '-' :: '-' :: name => r.longOption name
        | false, '-' :: c :: cs => (c :: cs).foldlM shortOption r
        | _, _ => r.positional a
      match step with
      | .error answer => answer
      | .ok r => r.toEnd optionsEnded as

end Reading

def parse (arguments : List Text) : Except UsageError Request := (⟨[], none⟩ : Reading).toEnd false arguments

end Request

def versionText : Text := "readme-sync 0.1.0\n"

def helpText : Text :=
  Text.concat [
    "Inline source files into the annotated code blocks of a README\n",
    "\n",
    "Usage: readme-sync [OPTIONS] [FILE]\n",
    "\n",
    "Arguments:\n",
    "  [FILE]  Documentation file to update [default: README.md]\n",
    "\n",
    "Options:\n",
    "      --check     Report out-of-date blocks without writing (exit 1 if any)\n",
    "      --list      List annotated blocks and exit\n",
    "  -q, --quiet     Suppress the per-block \"inlined\" lines\n",
    "      --no-color  Disable colored error output\n",
    "  -h, --help      Print help\n",
    "  -V, --version   Print version\n"]

end SnippetSync
