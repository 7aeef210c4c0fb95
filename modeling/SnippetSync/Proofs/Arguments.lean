import SnippetSync.Command.Arguments

/-!
# What is given as arguments

The options that a list of arguments names and the documents in it can be read off the arguments one by one, and a run
is told just these: every option named is one of its flags, and there is at most one document.

* `OptionName.named`, `Request.given`, `Request.documents` — the options that arguments name, and the documents.
* `Request.Reading.argument` — one argument is read; it extends the reading by what it names or ends it in something
  that is no run.
* `Request.Reading.exists_extends_of_toEnd` — what is read up to the end is what is given.
* `Request.exists_flags_of_parse` — **a run is told what is given**.
* `Request.check_list_exclusive` — a run is never told both to check and to list.
-/

namespace SnippetSync

/-- The options that an argument names, by its long name or by their letters. A value behind an equals sign is not part
of the name. -/
def OptionName.named : Text → List OptionName
  | '-' :: '-' :: name => (all.find? (·.long == name.takeWhile (· != '='))).toList
  | '-' :: letters => letters.flatMap fun c => (all.find? (·.short? == some c)).toList
  | _ => []

theorem OptionName.named_letters {c : Char} (hc : c ≠ '-') (cs : Text) :
    named ('-' :: c :: cs) = (c :: cs).flatMap fun c => (all.find? (·.short? == some c)).toList := by
  rw [named]
  rintro name h
  exact hc (List.head_eq_of_cons_eq h)

namespace Request

/-- The argument is a document where options are read too: no minus sign begins it, or it is one and nothing else. -/
def isDocument (a : Text) : Bool := a.head? != some '-' || a == ['-']

def endsOptions (a : Text) : Bool := a = ['-', '-']

def given (args : List Text) : List OptionName := (args.takeWhile (!endsOptions ·)).flatMap OptionName.named

def documents (args : List Text) : List Text :=
  (args.takeWhile (!endsOptions ·)).filter isDocument ++ (args.dropWhile (!endsOptions ·)).tail

theorem named_of_isDocument {a : Text} (h : isDocument a = true) : OptionName.named a = [] := by
  unfold OptionName.named
  split <;> simp_all [isDocument]

theorem given_cons {a : Text} (h : endsOptions a = false) (args : List Text) :
    given (a :: args) = OptionName.named a ++ given args := by
  simp [given, h]

theorem documents_cons {a : Text} (h : endsOptions a = false) (args : List Text) :
    documents (a :: args) = [a].filter isDocument ++ documents args := by
  simp only [documents, h, Bool.not_false, List.takeWhile_cons_of_pos, List.dropWhile_cons_of_pos,
    List.filter_cons, List.filter_nil]
  split <;> simp

/-- The reading goes on, or it ends in something that is no run. -/
def GoesOn (s : Step) : Prop := ∀ o, s ≠ .error (.ok (.run o))

namespace Reading

variable {r r' : Reading} {o : Options}

/-! ## One argument -/

theorem goesOn_option (r : Reading) (n : OptionName) : GoesOn (r.option n) := by
  intro o
  unfold option
  split
  · simp
  · cases n with
    | flag f => dsimp only; split <;> simp
    | help => simp
    | version => simp

theorem goesOn_positional (r : Reading) (a : Text) : GoesOn (r.positional a) := by
  intro o
  unfold positional
  split <;> simp

theorem goesOn_longOption (r : Reading) (a : Text) : GoesOn (r.longOption a) := by
  unfold longOption
  dsimp only
  split
  · simp [GoesOn]
  · split
    · exact goesOn_option r _
    · simp [GoesOn]

theorem goesOn_shortOption (r : Reading) (c : Char) : GoesOn (r.shortOption c) := by
  unfold shortOption
  split
  · simp [GoesOn]
  · exact goesOn_option r _

theorem goesOn_shortOptions (cs : Text) (r : Reading) : GoesOn (cs.foldlM shortOption r) := by
  induction cs generalizing r with
  | nil => intro o; simp [pure, Except.pure]
  | cons c cs ih =>
    have hc := goesOn_shortOption r c
    rw [List.foldlM_cons]
    cases h : r.shortOption c with
    | error a => rw [h] at hc; exact hc
    | ok r' => exact ih r'

/-- The reading `r'` is `r` after these flags and documents. -/
structure Extends (r r' : Reading) (fs : List Flag) (ds : List Text) : Prop where
  flags : r'.flags = fs.reverse ++ r.flags
  file : r'.file.toList = r.file.toList ++ ds

namespace Extends

theorem refl (r : Reading) : r.Extends r [] [] := ⟨by simp, by simp⟩

theorem trans {r'' : Reading} {fs fs' : List Flag} {ds ds' : List Text} (h : r.Extends r' fs ds)
    (h' : r'.Extends r'' fs' ds') : r.Extends r'' (fs ++ fs') (ds ++ ds') :=
  ⟨by simp [h'.flags, h.flags], by simp [h'.file, h.file]⟩

end Extends

theorem extends_of_option {n : OptionName} (h : r.option n = .ok r') : ∃ f, n = .flag f ∧ r.Extends r' [f] [] := by
  unfold option at h
  split at h
  · cases h
  · cases n with
    | help | version => cases h
    | flag f =>
      dsimp only at h
      split at h
      · cases h
      · obtain rfl := Except.ok.inj h
        exact ⟨f, rfl, by simp, by simp⟩

theorem extends_of_positional {a : Text} (h : r.positional a = .ok r') : r.Extends r' [] [a] := by
  unfold positional at h
  split at h
  · cases h
  · rename_i hfile
    obtain rfl := Except.ok.inj h
    have hnone : r.file = none := by simpa using hfile
    exact ⟨rfl, by simp [hnone]⟩

theorem extends_of_longOption {name : Text} (h : r.longOption name = .ok r') :
    ∃ f, OptionName.named ('-' :: '-' :: name) = [.flag f] ∧ r.Extends r' [f] [] := by
  unfold longOption at h
  dsimp only at h
  split at h
  · cases h
  · rename_i n hn
    split at h
    · obtain ⟨f, rfl, hf⟩ := extends_of_option h
      exact ⟨f, by simp [OptionName.named, hn], hf⟩
    · cases h

theorem extends_of_shortOption {c : Char} (h : r.shortOption c = .ok r') :
    ∃ f, OptionName.all.find? (·.short? == some c) = some (.flag f) ∧ r.Extends r' [f] [] := by
  unfold shortOption at h
  split at h
  · cases h
  · rename_i n hn
    obtain ⟨f, rfl, hf⟩ := extends_of_option h
    exact ⟨f, hn, hf⟩

theorem extends_of_shortOptions {cs : Text} (h : cs.foldlM shortOption r = .ok r') :
    ∃ fs : List Flag, (cs.flatMap fun c => (OptionName.all.find? (·.short? == some c)).toList) = fs.map .flag ∧
      r.Extends r' fs [] := by
  induction cs generalizing r with
  | nil =>
    obtain rfl := Except.ok.inj h
    exact ⟨[], rfl, .refl r⟩
  | cons c cs ih =>
    rw [List.foldlM_cons] at h
    cases hc : r.shortOption c with
    | error answer => rw [hc] at h; cases h
    | ok q =>
      rw [hc] at h
      obtain ⟨f, hf, hstep⟩ := extends_of_shortOption hc
      obtain ⟨fs, hfs, hrest⟩ := ih h
      exact ⟨f :: fs, by simp [hf, hfs], hstep.trans hrest⟩

def argument (r : Reading) (optionsEnded : Bool) (a : Text) : Step :=
  match optionsEnded, a with
  | false, '-' :: '-' :: name => r.longOption name
  | false, '-' :: c :: cs => (c :: cs).foldlM shortOption r
  | _, _ => r.positional a

theorem goesOn_argument (r : Reading) (optionsEnded : Bool) (a : Text) : GoesOn (r.argument optionsEnded a) := by
  unfold argument
  split
  · exact goesOn_longOption r _
  · exact goesOn_shortOptions _ r
  · exact goesOn_positional r a

/-- Where options are read, an argument gives the flags it names, or is a document. -/
theorem extends_of_argument {a : Text} (h : r.argument false a = .ok r') :
    ∃ fs : List Flag, OptionName.named a = fs.map .flag ∧ r.Extends r' fs ([a].filter isDocument) := by
  unfold argument at h
  split at h
  · obtain ⟨f, hf, hextends⟩ := extends_of_longOption h
    exact ⟨[f], hf, hextends⟩
  · rename_i c cs hc _
    obtain ⟨fs, hfs, hextends⟩ := extends_of_shortOptions h
    exact ⟨fs, (OptionName.named_letters hc cs).trans hfs, by simpa [isDocument] using hextends⟩
  · rename_i a _ _ _ hshort
    have ha : isDocument a = true := by
      rcases a with _ | ⟨c, cs⟩
      · rfl
      · by_cases hc : c = '-'
        · rcases cs with _ | ⟨c', cs⟩
          · simp [isDocument, hc]
          · exact absurd (by rw [hc]) (hshort c' cs rfl)
        · simp [isDocument, hc]
    exact ⟨[], named_of_isDocument ha, by simpa [ha] using extends_of_positional h⟩

/-! ## All arguments -/

theorem toEnd_cons (r : Reading) (optionsEnded : Bool) (a : Text) (args : List Text) :
    r.toEnd optionsEnded (a :: args) =
      if !optionsEnded && endsOptions a then r.toEnd true args
      else match r.argument optionsEnded a with
        | .error answer => answer
        | .ok q => q.toEnd optionsEnded args := by
  conv => lhs; unfold toEnd
  rfl

theorem exists_argument_of_toEnd {optionsEnded : Bool} {a : Text} {args : List Text}
    (ha : (!optionsEnded && endsOptions a) = false) (h : r.toEnd optionsEnded (a :: args) = .ok (.run o)) :
    ∃ q, r.argument optionsEnded a = .ok q ∧ q.toEnd optionsEnded args = .ok (.run o) := by
  rw [toEnd_cons, ha] at h
  have hgoes := goesOn_argument r optionsEnded a o
  cases hstep : r.argument optionsEnded a with
  | error answer =>
    rw [hstep] at h hgoes
    exact absurd (congrArg Except.error h) hgoes
  | ok q =>
    rw [hstep] at h
    exact ⟨q, rfl, h⟩

theorem exists_extends_of_toEnd_true {args : List Text} (h : r.toEnd true args = .ok (.run o)) :
    ∃ r', r.Extends r' [] args ∧ r'.finish = .ok (.run o) := by
  induction args generalizing r with
  | nil => exact ⟨r, .refl r, h⟩
  | cons a args ih =>
    obtain ⟨q, hq, h⟩ := exists_argument_of_toEnd rfl h
    obtain ⟨r', hrest, hfinish⟩ := ih h
    exact ⟨r', (extends_of_positional hq).trans hrest, hfinish⟩

/-- **What is read up to the end is what is given.** -/
theorem exists_extends_of_toEnd {args : List Text} (h : r.toEnd false args = .ok (.run o)) :
    ∃ r' fs, given args = fs.map .flag ∧ r.Extends r' fs (documents args) ∧ r'.finish = .ok (.run o) := by
  induction args generalizing r with
  | nil => exact ⟨r, [], rfl, .refl r, h⟩
  | cons a args ih =>
    cases ha : endsOptions a with
    | true =>
      rw [toEnd_cons, ha] at h
      obtain ⟨r', hrest, hfinish⟩ := exists_extends_of_toEnd_true h
      exact ⟨r', [], by simp [given, ha], by simpa [documents, ha] using hrest, hfinish⟩
    | false =>
      obtain ⟨q, hq, h⟩ := exists_argument_of_toEnd (by rw [ha]; rfl) h
      obtain ⟨fs, hfs, hstep⟩ := extends_of_argument hq
      obtain ⟨r', fs', hfs', hrest, hfinish⟩ := ih h
      refine ⟨r', fs ++ fs', ?_, ?_, hfinish⟩
      · rw [given_cons ha, hfs, hfs', List.map_append]
      · rw [documents_cons ha]
        exact hstep.trans hrest

/-- At the end the flags are told, and the document if there is one. To check and to list do not go together. -/
theorem of_finish (h : r.finish = .ok (.run o)) :
    o = ⟨r.file.getD defaultFile, r.flags.contains .check, r.flags.contains .list, r.flags.contains .quiet,
      r.flags.contains .noColor⟩ ∧ ¬ (o.check = true ∧ o.list = true) := by
  unfold finish at h
  split at h
  · simp at h
  · split at h
    · simp at h
    · rename_i hflags
      obtain rfl := Request.run.inj (Except.ok.inj h)
      refine ⟨rfl, ?_⟩
      rintro ⟨hcheck, hlist⟩
      have hc : Flag.check ∈ r.flags.reverse.filter fun f => f = .check ∨ f = .list := by
        simpa using hcheck
      have hl : Flag.list ∈ r.flags.reverse.filter fun f => f = .check ∨ f = .list := by
        simpa using hlist
      -- two different flags are among those that are left, so these are at least two
      match hfs : r.flags.reverse.filter fun f => f = .check ∨ f = .list with
      | [] => rw [hfs] at hc; simp at hc
      | [f] =>
        rw [hfs, List.mem_singleton] at hc hl
        rw [← hc] at hl
        cases hl
      | f :: f' :: fs => exact hflags f f' fs hfs

end Reading

variable {args : List Text} {o : Options}

/-- **A run is told what is given**: all options that the arguments name are flags of the run, and its document is the
one among them, or the default if there is none. -/
theorem exists_flags_of_parse (h : parse args = .ok (.run o)) :
    ∃ (fs : List Flag) (file : Option Text), given args = fs.map .flag ∧ documents args = file.toList ∧
      o = ⟨file.getD Reading.defaultFile, fs.contains .check, fs.contains .list, fs.contains .quiet,
        fs.contains .noColor⟩ := by
  obtain ⟨r, fs, hfs, hextends, hfinish⟩ := Reading.exists_extends_of_toEnd h
  have hflags : r.flags = fs.reverse := by simpa using hextends.flags
  have hfile : r.file.toList = documents args := by simpa using hextends.file
  refine ⟨fs, r.file, hfs, hfile.symm, ?_⟩
  rw [(Reading.of_finish hfinish).1, hflags]
  simp

/-- If a run is told neither to check nor to list, nothing is given but options that change what is shown, and at most
one document. -/
theorem given_of_parse (h : parse args = .ok (.run o)) (hc : o.check = false) (hl : o.list = false) :
    (∀ n ∈ given args, n = .flag .quiet ∨ n = .flag .noColor) ∧
      (documents args = [o.file] ∨ documents args = [] ∧ o.file = "README.md") := by
  obtain ⟨fs, file, hgiven, hdocuments, rfl⟩ := exists_flags_of_parse h
  have hcheck : Flag.check ∉ fs := by simpa using hc
  have hlist : Flag.list ∉ fs := by simpa using hl
  constructor
  · intro n hn
    rw [hgiven] at hn
    obtain ⟨f, hf, rfl⟩ := List.mem_map.1 hn
    cases f with
    | check => exact absurd hf hcheck
    | list => exact absurd hf hlist
    | quiet => exact .inl rfl
    | noColor => exact .inr rfl
  · rw [hdocuments]
    cases file with
    | none => exact .inr ⟨rfl, rfl⟩
    | some file => exact .inl rfl

/-- **A run is never told both to check and to list.** -/
theorem check_list_exclusive (h : parse args = .ok (.run o)) (hc : o.check = true) : o.list = false := by
  obtain ⟨r, -, -, -, hfinish⟩ := Reading.exists_extends_of_toEnd h
  have := (Reading.of_finish hfinish).2
  simpa [hc] using this

end Request

end SnippetSync
