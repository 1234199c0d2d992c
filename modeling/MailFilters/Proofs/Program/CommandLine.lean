import Mathlib.Data.List.Basic
import MailFilters.Program.CommandLine
import MailFilters.Proofs.Text.Cut
import MailFilters.Result

/-!
# What arguments ask for

Command lines as a grammar, stated without the reader, and the reader against it.

* **`Abbreviates`** — the names of an option: any start of its word behind two hyphens.
* **`classify_long_iff`**, **`classify_error_iff`** — the arguments that are long options, and those
  that could be several.
* **`Taken`**, **`Stops`**, **`Draft.take_runs`** — what is taken off the front of arguments, and
  how taking them ends.
* **`Written`**, **`readArguments_run_iff`** — the arguments with which the program is run.
* **`readArguments_congr`** — the order of arguments makes no difference but for the rules file,
  which is the last one.
* **`readArguments_help_iff`** — the arguments that ask for help.
-/

namespace MailFilters.CommandLine

open MailFilters.Text

/-! ## Names of options -/

/-- The word of an option, which stands behind two hyphens. -/
def Flag.word : Flag → List Char
  | .help => ['h', 'e', 'l', 'p']
  | .rulesFile => ['r', 'u', 'l', 'e', 's', '-', 'f', 'i', 'l', 'e']
  | .dryRun => ['d', 'r', 'y', '-', 'r', 'u', 'n']
  | .showRules => ['s', 'h', 'o', 'w']
  | .verbose => ['v', 'e', 'r', 'b', 'o', 's', 'e']

/-- The options, in the order in which they are listed. -/
def Flag.all : List Flag := [.help, .rulesFile, .dryRun, .showRules, .verbose]

/-- An option in full. -/
def Flag.spelling (flag : Flag) : String := String.ofList ('-' :: '-' :: flag.word)

/-- A name of an option: two hyphens and a start of its word. -/
def Abbreviates (flag : Flag) (name : List Char) : Prop :=
  ∃ start, start ≠ [] ∧ start <+: flag.word ∧ name = '-' :: '-' :: start

/-- The words of options start with different letters. -/
theorem Flag.word_unique {flag other : Flag} {start : List Char} (filled : start ≠ [])
    (starts : start <+: flag.word) (starts' : start <+: other.word) : flag = other := by
  obtain ⟨c, more, rfl⟩ := List.exists_cons_of_ne_nil filled
  cases flag <;> cases other <;> simp_all [word, List.cons_prefix_cons]

theorem spellings_eq :
    spellings = ("-h", .help) :: Flag.all.map fun flag => (flag.spelling, flag) := rfl

theorem word_of_listed {flag : Flag} {start : List Char}
    (listed : (String.ofList ('-' :: '-' :: start), flag) ∈ spellings) : start = flag.word := by
  rw [spellings_eq] at listed
  rcases List.mem_cons.mp listed with short | long
  · have letters := congrArg String.toList (Prod.mk.inj short).1
    simp at letters
  · obtain ⟨other, _, same⟩ := List.mem_map.mp long
    obtain ⟨equal, rfl⟩ := Prod.mk.inj same
    have letters := congrArg String.toList equal
    simpa [Flag.spelling] using letters.symm

/-- The spellings that a name may be cut from. -/
theorem candidates_eq (start : List Char) :
    (spellings.filter fun spelling => ('-' :: '-' :: start).isPrefixOf spelling.1.toList) =
      (Flag.all.filter fun flag => start.isPrefixOf flag.word).map
        fun flag => (flag.spelling, flag) := by
  rw [spellings_eq, List.filter_cons_of_neg (by simp [List.isPrefixOf]), List.filter_map]
  rfl

theorem filter_of_prefix {flag : Flag} {start : List Char} (filled : start ≠ [])
    (starts : start <+: flag.word) :
    (Flag.all.filter fun flag => start.isPrefixOf flag.word) = [flag] := by
  have only : ∀ other ∈ Flag.all, start.isPrefixOf other.word = (other == flag) := by
    intro other _
    rw [Bool.eq_iff_iff, List.isPrefixOf_iff_prefix, beq_iff_eq]
    exact ⟨fun starts' => Flag.word_unique filled starts' starts, fun same => same ▸ starts⟩
  rw [List.filter_congr only]
  cases flag <;> rfl

section ClassifyLong

variable {argument : String} {start : List Char} {value : Option (List Char)}

theorem classifyLong_option {flag : Flag}
    (cut : cutAt '=' argument.toList = ('-' :: '-' :: start, value)) (filled : start ≠ [])
    (starts : start <+: flag.word) :
    classifyLong argument = .ok (.long flag (value.map String.ofList)) := by
  rw [classifyLong, cut]
  dsimp only
  cases found : spellings.lookup (String.ofList ('-' :: '-' :: start)) with
  | some other =>
      obtain ⟨before, after, split, _⟩ := List.lookup_eq_some_iff.mp found
      have listed : (String.ofList ('-' :: '-' :: start), other) ∈ spellings := by
        rw [split]
        simp
      have whole := word_of_listed listed
      have same : other = flag :=
        Flag.word_unique filled (whole ▸ List.prefix_rfl) starts
      rw [same]
  | none =>
      dsimp only
      rw [candidates_eq, filter_of_prefix filled starts]
      rfl

theorem classifyLong_other (cut : cutAt '=' argument.toList = ('-' :: '-' :: start, value))
    (foreign : ∀ flag : Flag, ¬ start <+: flag.word) :
    classifyLong argument = .ok (classifyOther argument.toList) := by
  rw [classifyLong, cut]
  dsimp only
  cases found : spellings.lookup (String.ofList ('-' :: '-' :: start)) with
  | some other =>
      obtain ⟨before, after, split, _⟩ := List.lookup_eq_some_iff.mp found
      have listed : (String.ofList ('-' :: '-' :: start), other) ∈ spellings := by
        rw [split]
        simp
      have whole := word_of_listed listed
      exact absurd (whole ▸ List.prefix_rfl) (foreign other)
  | none =>
      dsimp only
      have none : (Flag.all.filter fun flag => start.isPrefixOf flag.word) = [] := by
        refine List.filter_eq_nil_iff.mpr fun flag _ => ?_
        rw [List.isPrefixOf_iff_prefix]
        exact foreign flag
      rw [candidates_eq, none]
      rfl

theorem classifyLong_bare (cut : cutAt '=' argument.toList = (['-', '-'], value)) :
    classifyLong argument = .error (.ambiguous argument (Flag.all.map Flag.spelling)) := by
  rw [classifyLong, cut]
  rfl

end ClassifyLong

/-! ## Kinds of arguments -/

/-- What stands behind the name of an option. -/
def valuePart : Option (List Char) → List Char
  | none => []
  | some value => '=' :: value

theorem exists_cut (s : List Char) :
    ∃ name value, cutAt '=' s = (name, value) ∧ s = name ++ valuePart value := by
  by_cases marked : '=' ∈ s
  · obtain ⟨name, value, split, free⟩ := List.eq_append_cons_of_mem marked
    exact ⟨name, some value, split ▸ cutAt_append free value, split⟩
  · exact ⟨s, none, cutAt_free marked, (List.append_nil s).symm⟩

theorem cutAt_valuePart {name : List Char} (free : '=' ∉ name) (value : Option (List Char)) :
    cutAt '=' (name ++ valuePart value) = (name, value) := by
  cases value with
  | none => rw [valuePart, List.append_nil, cutAt_free free]
  | some value => exact cutAt_append free value

theorem Flag.word_free {flag : Flag} {start : List Char} (starts : start <+: flag.word) :
    '=' ∉ start := by
  intro member
  have inside := starts.subset member
  cases flag <;> simp [word] at inside

/-- What an argument may be, and how it is written then.  What is neither an option nor the divider
may be of any form. -/
inductive Classified (argument : String) : Except UsageError Kind → Prop
  | divider : argument.toList = ['-', '-'] → Classified argument (.ok .divider)
  | bare {value : List Char} : argument.toList = '-' :: '-' :: '=' :: value →
      Classified argument (.error (.ambiguous argument (Flag.all.map Flag.spelling)))
  | long {flag : Flag} {name : List Char} {value : Option String} : Abbreviates flag name →
      argument.toList = name ++ valuePart (value.map String.toList) →
      Classified argument (.ok (.long flag value))
  | short {rest : List Char} : argument.toList = '-' :: 'h' :: rest →
      Classified argument (.ok (.short rest))
  | plain : Classified argument (.ok .plain)
  | unknown : Classified argument (.ok .unknown)

section Classify

variable {argument : String} {rest : List Char}

theorem classify_dashes (shape : argument.toList = '-' :: '-' :: rest) (filled : rest ≠ []) :
    classify argument = classifyLong argument := by
  obtain ⟨c, more, rfl⟩ := List.exists_cons_of_ne_nil filled
  rw [classify, shape]
  rfl

theorem cutAt_dashes (rest : List Char) :
    cutAt '=' ('-' :: '-' :: rest) =
      ('-' :: '-' :: (cutAt '=' rest).1, (cutAt '=' rest).2) := by simp [cutAt]

theorem classify_bare {value : List Char} (shape : argument.toList = '-' :: '-' :: '=' :: value) :
    classify argument = .error (.ambiguous argument (Flag.all.map Flag.spelling)) := by
  rw [classify_dashes shape (by simp)]
  exact classifyLong_bare (shape ▸ cutAt_dashes _)

theorem classify_option {flag : Flag} {name : List Char} {value : Option String}
    (abbreviates : Abbreviates flag name)
    (shape : argument.toList = name ++ valuePart (value.map String.toList)) :
    classify argument = .ok (.long flag value) := by
  obtain ⟨start, filled, starts, rfl⟩ := abbreviates
  have cut : cutAt '=' argument.toList = ('-' :: '-' :: start, value.map String.toList) := by
    rw [shape, List.cons_append, List.cons_append, cutAt_dashes,
      cutAt_valuePart (Flag.word_free starts)]
  rw [classify_dashes shape (by simp [filled]), classifyLong_option cut filled starts]
  cases value <;> simp

theorem classifyOther_classified (argument : String) :
    Classified argument (.ok (classifyOther argument.toList)) := by
  unfold classifyOther
  split
  · exact .plain
  · exact .unknown

theorem classify_classified (argument : String) : Classified argument (classify argument) := by
  by_cases dashes : ∃ rest, argument.toList = '-' :: '-' :: rest
  · obtain ⟨rest, shape⟩ := dashes
    obtain ⟨start, value, cut, split⟩ := exists_cut rest
    have whole : cutAt '=' argument.toList = ('-' :: '-' :: start, value) := by
      rw [shape, cutAt_dashes, cut]
    by_cases bare : start = []
    · subst bare
      cases value with
      | none =>
          obtain rfl : rest = [] := split
          rw [classify, shape]
          exact .divider shape
      | some value =>
          obtain rfl : rest = '=' :: value := split
          rw [classify_bare shape]
          exact .bare shape
    · by_cases option : ∃ flag : Flag, start <+: flag.word
      · obtain ⟨flag, starts⟩ := option
        have abbreviates : Abbreviates flag ('-' :: '-' :: start) := ⟨start, bare, starts, rfl⟩
        have written : argument.toList = '-' :: '-' :: start ++
            valuePart ((value.map String.ofList).map String.toList) := by
          rw [shape, split]
          cases value <;> simp
        rw [classify_option abbreviates written]
        exact .long abbreviates written
      · rw [classify_dashes shape (by rw [split]; simp [bare]),
          classifyLong_other whole (not_exists.mp option)]
        exact classifyOther_classified argument
  · unfold classify
    split
    · next divider => exact absurd ⟨_, divider⟩ dashes
    · next shape => exact absurd ⟨_, shape⟩ dashes
    · next short => exact .short short
    · next shape => exact shape ▸ classifyOther_classified argument
    · exact .plain

/-- **Long options.** An argument is a long option if it is a name of the option, perhaps with a
value behind an equals sign. -/
theorem classify_long_iff {flag : Flag} {value : Option String} :
    classify argument = .ok (.long flag value) ↔
      ∃ name, Abbreviates flag name ∧
        argument.toList = name ++ valuePart (value.map String.toList) := by
  constructor
  · intro kind
    have classified := classify_classified argument
    rw [kind] at classified
    cases classified with
    | long abbreviates shape => exact ⟨_, abbreviates, shape⟩
  · rintro ⟨name, abbreviates, shape⟩
    exact classify_option abbreviates shape

/-- An argument could be several options only if it has no letter before its equals sign. -/
theorem classify_error_iff {cause : UsageError} :
    classify argument = .error cause ↔
      (∃ value, argument.toList = '-' :: '-' :: '=' :: value) ∧
        cause = .ambiguous argument (Flag.all.map Flag.spelling) := by
  constructor
  · intro failed
    have classified := classify_classified argument
    rw [failed] at classified
    cases classified with
    | bare shape => exact ⟨⟨_, shape⟩, rfl⟩
  · rintro ⟨⟨value, shape⟩, rfl⟩
    exact classify_bare shape

end Classify

/-! ## Taking arguments in order -/

/-- Whether an option takes no value and lets the program run. -/
def Flag.isSwitch : Flag → Bool
  | .dryRun | .showRules | .verbose => true
  | .help | .rulesFile => false

/-- One thing that arguments give. -/
inductive Item
  | rulesFile (value : String)
  | switch (flag : Flag)
  /-- An argument of no use. -/
  | stray (argument : String)
  deriving DecidableEq, Repr

namespace Item

/-- The value for the rules file that an item gives. -/
def value? : Item → Option String
  | rulesFile value => some value
  | switch _ | stray _ => none

/-- The argument of no use that an item is. -/
def stray? : Item → Option String
  | stray argument => some argument
  | rulesFile _ | switch _ => none

/-- A draft with one more item. -/
def addTo (draft : Draft) : Item → Draft
  | rulesFile value => { draft with rulesFile := some value }
  | switch flag => draft.switchOn flag
  | stray argument => draft.setAside argument

end Item

/-- What is left of arguments that were told apart behind some items at their front. -/
inductive Taken (left : List (String × Kind)) : List (String × Kind) → List Item → Prop
  | done : Taken left left []
  | joined {argument value : String} {tags : List (String × Kind)} {items : List Item} :
      Taken left tags items →
      Taken left ((argument, .long .rulesFile (some value)) :: tags) (.rulesFile value :: items)
  | apart {argument value : String} {tags : List (String × Kind)} {items : List Item} :
      Taken left tags items →
      Taken left ((argument, .long .rulesFile none) :: (value, .plain) :: tags)
        (.rulesFile value :: items)
  | switch {argument : String} {flag : Flag} {tags : List (String × Kind)} {items : List Item} :
      flag.isSwitch = true → Taken left tags items →
      Taken left ((argument, .long flag none) :: tags) (.switch flag :: items)
  | stray {argument : String} {kind : Kind} {tags : List (String × Kind)} {items : List Item} :
      kind = .plain ∨ kind = .divider ∨ kind = .unknown → Taken left tags items →
      Taken left ((argument, kind) :: tags) (.stray argument :: items)

/-- The arguments that are not taken, and what they lead to. -/
inductive Stops : List (String × Kind) → Except UsageError Invocation → Prop
  | help {argument : String} {rest : List (String × Kind)} :
      Stops ((argument, .long .help none) :: rest) (.ok .help)
  | short {argument : String} {value : List Char} {rest : List (String × Kind)} :
      Stops ((argument, .short value) :: rest) ((readShort value).map fun _ => .help)
  | missing {argument : String} {rest : List (String × Kind)} :
      (∀ value later, rest ≠ (value, .plain) :: later) →
      Stops ((argument, .long .rulesFile none) :: rest) (.error (.missingValue .rulesFile))
  | unwanted {argument value : String} {flag : Flag} {rest : List (String × Kind)} :
      flag ≠ .rulesFile →
      Stops ((argument, .long flag (some value)) :: rest) (.error (.unwantedValue flag value))

section Take

variable {tags left : List (String × Kind)} {items : List Item}
  {outcome : Except UsageError Invocation}

/-- Items are added to a draft, and then what is left is taken. -/
theorem Taken.take (taken : Taken left tags items) (draft : Draft) :
    draft.take tags = (items.foldl Item.addTo draft).take left := by
  induction taken generalizing draft with
  | done => rfl
  | joined _ ih => exact ih _
  | apart _ ih => exact ih _
  | @switch _ flag _ _ isSwitch _ ih =>
      cases flag with
      | help => simp [Flag.isSwitch] at isSwitch
      | rulesFile => simp [Flag.isSwitch] at isSwitch
      | dryRun => exact ih _
      | showRules => exact ih _
      | verbose => exact ih _
  | stray useless _ ih =>
      rcases useless with rfl | rfl | rfl
      · exact ih _
      · exact ih _
      · exact ih _

theorem Stops.take (stops : Stops tags outcome) (draft : Draft) : draft.take tags = outcome := by
  cases stops with
  | help => rfl
  | short => rfl
  | missing alone =>
      rw [Draft.take]
      exact alone
  | @unwanted _ _ flag _ other =>
      cases flag with
      | rulesFile => exact absurd rfl other
      | _ => rfl

/-- **One run.** Arguments are taken up to their end, or up to one that ends the run. -/
theorem Draft.take_runs (draft : Draft) (tags : List (String × Kind)) :
    ∃ items left, Taken left tags items ∧
      (left = [] ∧ draft.take tags = (items.foldl Item.addTo draft).finish ∨
        Stops left (draft.take tags)) := by
  fun_induction Draft.take draft tags with
  | case1 draft => exact ⟨[], [], .done, .inl ⟨rfl, rfl⟩⟩
  | case2 draft argument value rest ih =>
      obtain ⟨items, left, taken, ends⟩ := ih
      exact ⟨.rulesFile value :: items, left, .joined taken, ends⟩
  | case3 draft argument value rest ih =>
      obtain ⟨items, left, taken, ends⟩ := ih
      exact ⟨.rulesFile value :: items, left, .apart taken, ends⟩
  | case4 draft argument rest alone => exact ⟨[], _, .done, .inr (.missing alone)⟩
  | case5 draft argument flag value rest other => exact ⟨[], _, .done, .inr (.unwanted other)⟩
  | case6 draft argument rest => exact ⟨[], _, .done, .inr .help⟩
  | case7 draft argument flag rest _ notFile notHelp ih =>
      obtain ⟨items, left, taken, ends⟩ := ih
      have isSwitch : flag.isSwitch = true := by
        cases flag with
        | help => exact absurd rfl notHelp
        | rulesFile => exact absurd rfl notFile
        | _ => rfl
      exact ⟨.switch flag :: items, left, .switch isSwitch taken, ends⟩
  | case8 draft argument value rest => exact ⟨[], _, .done, .inr .short⟩
  | case9 draft argument rest ih =>
      obtain ⟨items, left, taken, ends⟩ := ih
      exact ⟨.stray argument :: items, left, .stray (.inl rfl) taken, ends⟩
  | case10 draft argument rest ih =>
      obtain ⟨items, left, taken, ends⟩ := ih
      exact ⟨.stray argument :: items, left, .stray (.inr (.inl rfl)) taken, ends⟩
  | case11 draft argument rest ih =>
      obtain ⟨items, left, taken, ends⟩ := ih
      exact ⟨.stray argument :: items, left, .stray (.inr (.inr rfl)) taken, ends⟩

/-- What a draft holds behind some items. -/
theorem foldl_addTo (items : List Item) (draft : Draft) :
    items.foldl Item.addTo draft =
      { rulesFile := (items.filterMap Item.value?).getLast?.or draft.rulesFile
        dryRun := draft.dryRun || items.contains (.switch .dryRun)
        showRules := draft.showRules || items.contains (.switch .showRules)
        verbose := draft.verbose || items.contains (.switch .verbose)
        unused := draft.unused ++ items.filterMap Item.stray? } := by
  induction items generalizing draft with
  | nil => simp
  | cons item rest ih =>
      rw [List.foldl_cons, ih]
      cases item with
      | rulesFile value =>
          cases last : (rest.filterMap Item.value?).getLast? <;>
            simp [Item.addTo, Item.value?, Item.stray?, List.filterMap_cons, List.getLast?_cons,
              last]
      | switch flag =>
          cases flag <;>
            simp [Item.addTo, Item.value?, Item.stray?, List.filterMap_cons, Draft.switchOn]
      | stray argument =>
          simp [Item.addTo, Item.value?, Item.stray?, List.filterMap_cons, Draft.setAside]

/-- The options that items set, with a value for the rules file. -/
def optionsOf (items : List Item) (value : String) : Options :=
  { rulesFile := fileName? value, dryRun := items.contains (.switch .dryRun)
    showRules := items.contains (.switch .showRules)
    verbose := items.contains (.switch .verbose) }

theorem fileName?_eq_some {value name : String} (named : fileName? value = some name) :
    value = name := by
  rw [fileName?] at named
  split at named
  · simp at named
  · exact Option.some.inj named

/-- What items come to: the last value for the rules file counts, and an argument of no use does
not pass. -/
theorem finish_items (items : List Item) :
    (items.foldl Item.addTo {}).finish =
      match (items.filterMap Item.value?).getLast? with
      | none => .error .missingRulesFile
      | some value =>
        if items.filterMap Item.stray? ≠ [] then
          .error (.unrecognized (items.filterMap Item.stray?))
        else .ok (.run (optionsOf items value)) := by
  rw [foldl_addTo]
  cases last : (items.filterMap Item.value?).getLast? with
  | none => simp [Draft.finish]
  | some value => simp [Draft.finish, optionsOf]

end Take

/-! ## Command lines -/

/-- Arguments that give items and no more: the rules file with its value behind an equals sign or in
an argument of its own, which is no option, and switches. -/
inductive Written : List String → List Item → Prop
  | done : Written [] []
  | joined {argument value : String} {name : List Char} {arguments : List String}
      {items : List Item} : Abbreviates .rulesFile name →
      argument.toList = name ++ '=' :: value.toList → Written arguments items →
      Written (argument :: arguments) (.rulesFile value :: items)
  | apart {argument value : String} {arguments : List String} {items : List Item} :
      Abbreviates .rulesFile argument.toList → classify value = .ok .plain →
      Written arguments items → Written (argument :: value :: arguments) (.rulesFile value :: items)
  | switch {argument : String} {flag : Flag} {arguments : List String} {items : List Item} :
      flag.isSwitch = true → Abbreviates flag argument.toList → Written arguments items →
      Written (argument :: arguments) (.switch flag :: items)

section Lines

variable {argument : String} {arguments : List String} {tags : List (String × Kind)}
  {items : List Item} {kind : Kind}

theorem classifyAll_cons (told : classify argument = .ok kind) (option : kind ≠ .divider)
    (others : classifyAll arguments = .ok tags) :
    classifyAll (argument :: arguments) = .ok ((argument, kind) :: tags) := by
  rw [classifyAll, told]
  show (if kind = .divider then _ else _) = _
  rw [if_neg option, others]
  rfl

theorem exists_of_classifyAll (told : classifyAll arguments = .ok ((argument, kind) :: tags))
    (option : kind ≠ .divider) :
    ∃ rest, arguments = argument :: rest ∧ classify argument = .ok kind ∧
      classifyAll rest = .ok tags := by
  cases arguments with
  | nil => simp [classifyAll] at told
  | cons first rest =>
      rw [classifyAll] at told
      obtain ⟨kind', first', told⟩ := Result.bind_eq_ok_iff.mp told
      split at told
      · next divider =>
          rw [Result.pure_eq_ok_iff, List.cons.injEq, Prod.mk.injEq] at told
          exact absurd (told.1.2.symm.trans divider) option
      · obtain ⟨tags', others, told⟩ := Result.bind_eq_ok_iff.mp told
        rw [Result.pure_eq_ok_iff, List.cons.injEq, Prod.mk.injEq] at told
        obtain ⟨⟨rfl, rfl⟩, rfl⟩ := told
        exact ⟨rest, rfl, first', others⟩

theorem classify_name {flag : Flag} (abbreviates : Abbreviates flag argument.toList) :
    classify argument = .ok (.long flag none) :=
  classify_option abbreviates (List.append_nil _).symm

/-- A command line is told apart into what its items are taken from. -/
theorem Written.tagged (written : Written arguments items) :
    ∃ tags, classifyAll arguments = .ok tags ∧ Taken [] tags items := by
  induction written with
  | done => exact ⟨[], rfl, .done⟩
  | @joined argument value _ _ _ abbreviates shape _ ih =>
      obtain ⟨tags, told, taken⟩ := ih
      have option : classify argument = .ok (.long .rulesFile (some value)) :=
        classify_option abbreviates shape
      exact ⟨_, classifyAll_cons option (by simp) told, .joined taken⟩
  | apart abbreviates plain _ ih =>
      obtain ⟨tags, told, taken⟩ := ih
      have others := classifyAll_cons plain (by simp) told
      exact ⟨_, classifyAll_cons (classify_name abbreviates) (by simp) others, .apart taken⟩
  | switch isSwitch abbreviates _ ih =>
      obtain ⟨tags, told, taken⟩ := ih
      exact ⟨_, classifyAll_cons (classify_name abbreviates) (by simp) told,
        .switch isSwitch taken⟩

theorem Written.strays (written : Written arguments items) :
    items.filterMap Item.stray? = [] := by
  induction written with
  | done => rfl
  | joined _ _ _ ih => exact ih
  | apart _ _ _ ih => exact ih
  | switch _ _ _ ih => exact ih

theorem eq_nil_of_classifyAll (told : classifyAll arguments = .ok []) : arguments = [] := by
  cases arguments with
  | nil => rfl
  | cons first rest =>
      rw [classifyAll] at told
      obtain ⟨kind, _, told⟩ := Result.bind_eq_ok_iff.mp told
      split at told
      · simp [Result.pure_eq_ok_iff] at told
      · obtain ⟨tags, _, told⟩ := Result.bind_eq_ok_iff.mp told
        simp [Result.pure_eq_ok_iff] at told

/-- Without arguments of no use, what is taken makes up a command line. -/
theorem Taken.written (taken : Taken [] tags items) (told : classifyAll arguments = .ok tags)
    (clean : items.filterMap Item.stray? = []) : Written arguments items := by
  induction taken generalizing arguments with
  | done => exact eq_nil_of_classifyAll told ▸ .done
  | joined _ ih =>
      obtain ⟨rest, rfl, first, others⟩ := exists_of_classifyAll told (by simp)
      obtain ⟨name, abbreviates, shape⟩ := classify_long_iff.mp first
      exact .joined abbreviates shape (ih others clean)
  | apart _ ih =>
      obtain ⟨rest, rfl, first, others⟩ := exists_of_classifyAll told (by simp)
      obtain ⟨later, rfl, plain, others⟩ := exists_of_classifyAll others (by simp)
      obtain ⟨name, abbreviates, shape⟩ := classify_long_iff.mp first
      obtain rfl := shape.trans (List.append_nil name)
      exact .apart abbreviates plain (ih others clean)
  | switch isSwitch _ ih =>
      obtain ⟨rest, rfl, first, others⟩ := exists_of_classifyAll told (by simp)
      obtain ⟨name, abbreviates, shape⟩ := classify_long_iff.mp first
      obtain rfl := shape.trans (List.append_nil name)
      exact .switch isSwitch abbreviates (ih others clean)
  | stray _ _ _ => simp [Item.stray?] at clean

/-- A command line sets what its items come to. -/
theorem readArguments_written (written : Written arguments items) :
    readArguments arguments =
      match (items.filterMap Item.value?).getLast? with
      | none => .error .missingRulesFile
      | some value => .ok (.run (optionsOf items value)) := by
  obtain ⟨tags, told, taken⟩ := written.tagged
  rw [readArguments, told]
  show Draft.take {} tags = _
  rw [taken.take, Draft.take, finish_items, written.strays]
  rfl

/-- **Command lines.** The program is run with options if the arguments are a command line that
names a rules file; the last name counts, and each switch that is there. -/
theorem readArguments_run_iff {options : Options} :
    readArguments arguments = .ok (.run options) ↔
      ∃ items value, Written arguments items ∧
        (items.filterMap Item.value?).getLast? = some value ∧
        options = optionsOf items value := by
  constructor
  · intro read
    obtain ⟨tags, told, takes⟩ := Result.bind_eq_ok_iff.mp read
    obtain ⟨items, left, taken, ends⟩ := Draft.take_runs {} tags
    rcases ends with ⟨rfl, finished⟩ | stops
    · rw [takes, finish_items] at finished
      split at finished
      · simp at finished
      · next value last =>
          split at finished
          · simp at finished
          · next clean =>
              rw [Except.ok.injEq, Invocation.run.injEq] at finished
              exact ⟨items, value, taken.written told (not_not.mp clean), last, finished⟩
    · -- what ends the run asks for help or is refused
      rw [takes] at stops
      generalize outcome : Except.ok (Invocation.run options) = result at stops
      cases stops with
      | help => simp at outcome
      | @short _ value _ =>
          cases short : readShort value <;> simp [short, Except.map] at outcome
      | missing _ => simp at outcome
      | unwanted _ => simp at outcome
  · rintro ⟨items, value, written, last, rfl⟩
    rw [readArguments_written written, last]

example : readArguments ["--rules", "a", "--dry", "--rules-file=b"] =
    .ok (.run { rulesFile := some "b", dryRun := true }) := by decide +kernel

/-- The order of arguments and their repetition make no difference, but for the name of the rules
file that is the last one. -/
theorem readArguments_congr {arguments' : List String} {items' : List Item}
    (written : Written arguments items) (written' : Written arguments' items')
    (switches : ∀ flag, .switch flag ∈ items ↔ .switch flag ∈ items')
    (last : (items.filterMap Item.value?).getLast? = (items'.filterMap Item.value?).getLast?) :
    readArguments arguments = readArguments arguments' := by
  have same : ∀ flag, items.contains (.switch flag) = items'.contains (.switch flag) := by
    intro flag
    rw [Bool.eq_iff_iff, List.contains_iff_mem, List.contains_iff_mem]
    exact switches flag
  have options : optionsOf items = optionsOf items' := by
    funext value
    rw [optionsOf, optionsOf, same, same, same]
  rw [readArguments_written written, readArguments_written written', last, options]

end Lines

/-! ## Asking for help -/

theorem readRepeats_ok_iff {value : List Char} :
    readRepeats value = .ok () ↔ ∀ c ∈ value, c = 'h' := by
  induction value with
  | nil => simp [readRepeats]
  | cons c rest ih =>
      rw [List.forall_mem_cons, ← ih]
      by_cases repeated : c = 'h'
      · subst repeated
        simp [readRepeats]
      · rw [readRepeats.eq_def]
        simp [repeated]

/-- The short option for help may be repeated, and its repetitions may stand behind an equals
sign. -/
theorem readShort_ok_iff {value : List Char} :
    readShort value = .ok () ↔
      (∀ c ∈ value, c = 'h') ∨ ∃ rest, rest ≠ [] ∧ value = '=' :: rest ∧ ∀ c ∈ rest, c = 'h' := by
  unfold readShort
  split
  · simp
  · next rest alone =>
      have filled : rest ≠ [] := alone
      rw [readRepeats_ok_iff]
      simp [filled]
  · next foreign =>
      rw [readRepeats_ok_iff]
      refine (or_iff_left ?_).symm
      rintro ⟨rest, _, rfl, _⟩
      exact foreign rest rfl

/-- The kinds of arguments that ask for help. -/
def Kind.AsksHelp (kind : Kind) : Prop :=
  kind = .long .help none ∨ ∃ value, kind = .short value ∧ readShort value = .ok ()

/-- **Help.** It is asked for if an argument that asks for it comes before one that is refused; what
is behind it must still not be short for several options. -/
theorem readArguments_help_iff {arguments : List String} :
    readArguments arguments = .ok .help ↔
      ∃ tags items argument kind rest, classifyAll arguments = .ok tags ∧
        Taken ((argument, kind) :: rest) tags items ∧ kind.AsksHelp := by
  constructor
  · intro read
    obtain ⟨tags, told, takes⟩ := Result.bind_eq_ok_iff.mp read
    obtain ⟨items, left, taken, ends⟩ := Draft.take_runs {} tags
    rcases ends with ⟨rfl, finished⟩ | stops
    · rw [takes, finish_items] at finished
      split at finished
      · simp at finished
      · split at finished <;> simp at finished
    · rw [takes] at stops
      generalize outcome : Except.ok Invocation.help = result at stops
      cases stops with
      | help => exact ⟨tags, items, _, _, _, told, taken, .inl rfl⟩
      | @short _ value _ =>
          cases short : readShort value with
          | ok _ => exact ⟨tags, items, _, _, _, told, taken, .inr ⟨value, rfl, short⟩⟩
          | error cause => simp [short, Except.map] at outcome
      | missing _ => simp at outcome
      | unwanted _ => simp at outcome
  · rintro ⟨tags, items, argument, kind, rest, told, taken, asks⟩
    rw [readArguments, told]
    show Draft.take {} tags = _
    rw [taken.take]
    rcases asks with rfl | ⟨value, rfl, short⟩
    · exact Stops.help.take _
    · rw [Stops.short.take, short]
      rfl

end MailFilters.CommandLine
