import MailFilters.Proofs.Account.Announcements
import MailFilters.Proofs.Account.Counterpart
import MailFilters.Proofs.Account.Levels

/-!
# How a directory grows

Ensuring a path makes the levels of it that are missing, outermost first, and no other label.

* **`Session.directory`** — the labels that a directory looks through.
* **`Gains`** — a directory got labels of some names behind those that it had
  (`Gains.created_eq`).
* **`isThere`**, **`missing`** — whether a path is among some names, and the names of the labels
  that ensuring a path makes if it succeeds.
* **`missing_behind`** — what is missing behind a part of the missing labels is the other part.
-/

namespace MailFilters

/-- The labels that a directory of a mode looks through: those that are known, or those of the
account. -/
def Session.directory (session : Session) (mode : Mode) : List Label :=
  (session.known mode).getD session.account.labels

/-- The names of the labels that a directory of a mode looks through. -/
def Session.names (session : Session) (mode : Mode) : List String :=
  (session.directory mode).map (·.name)

theorem Session.directory_of_known {session : Session} {mode : Mode} {labels : List Label}
    (knows : session.known mode = some labels) : session.directory mode = labels := by
  rw [Session.directory, knows, Option.getD_some]

/-- A directory knows the labels that it looks through, if it knows any. -/
theorem Session.known_directory {session : Session} {mode : Mode}
    (knows : (session.known mode).isSome) :
    session.known mode = some (session.directory mode) := by
  obtain ⟨labels, knows⟩ := Option.isSome_iff_exists.mp knows
  rw [Session.directory_of_known knows, knows]

/-- A real directory looks through the labels of its account. -/
theorem Session.Coherent.directory {session : Session} (coherent : session.Coherent) :
    session.directory .real = session.account.labels := by
  cases knows : session.realLabels with
  | none => simp [Session.directory, Session.known, knows]
  | some labels => simp [Session.directory, Session.known, knows, coherent labels knows]

/-- A directory got labels of some names behind those that it had, with ids of new ones, and is
known if it was.  A dry run has announced them. -/
structure Gains (mode : Mode) (before after : Session) (names : List String) : Prop where
  grown : ∃ created, after.directory mode = before.directory mode ++ created ∧
    created.map (·.name) = names ∧ ∀ label ∈ created, label.IsNew mode
  known : (before.known mode).isSome → (after.known mode).isSome
  announced : mode = .dry → before.log.Announces after.log names

namespace Gains

variable {mode : Mode} {before middle after : Session} {xs ys names : List String}

theorem refl (session : Session) : Gains mode session session [] where
  grown := ⟨[], (List.append_nil _).symm, rfl, by simp⟩
  known := id
  announced _ := .refl session.log

theorem trans (front : Gains mode before middle xs) (back : Gains mode middle after ys) :
    Gains mode before after (xs ++ ys) where
  grown := by
    obtain ⟨created, grown, rfl, new⟩ := front.grown
    obtain ⟨more, grown', rfl, new'⟩ := back.grown
    exact ⟨created ++ more, by rw [grown', grown, List.append_assoc], List.map_append,
      List.forall_mem_append.mpr ⟨new, new'⟩⟩
  known := back.known ∘ front.known
  announced dry := (front.announced dry).trans (back.announced dry)

theorem names_eq (gains : Gains mode before after names) :
    after.names mode = before.names mode ++ names := by
  obtain ⟨created, grown, rfl, _⟩ := gains.grown
  rw [Session.names, grown, List.map_append]
  rfl

/-- Nothing is gained if the labels stay what they are known as. -/
theorem idle (known : after.known mode = before.known mode)
    (labels : after.account.labels = before.account.labels)
    (log : mode = .dry → before.log.Announces after.log []) : Gains mode before after [] where
  grown := ⟨[], by rw [Session.directory, known, labels]; exact (List.append_nil _).symm, rfl,
    by simp⟩
  known := by rw [known]; exact id
  announced := log

/-- A line of the log that announces nothing is no gain. -/
theorem noted {text : String} (unmarked : Unmarked text) (level : LogLevel) (session : Session) :
    Gains mode session { session with log := session.log ++ [⟨level, text⟩] } [] :=
  .idle (by cases mode <;> rfl) rfl fun _ => .unmarked unmarked level session.log

/-- A label is noted behind those that were known. -/
theorem added {labels : List Label} (label : Label) (knows : before.known mode = some labels)
    (knows' : after.known mode = some (labels ++ [label])) (new : label.IsNew mode)
    (log : mode = .dry → before.log.Announces after.log [label.name]) :
    Gains mode before after [label.name] where
  grown := ⟨[label], by simp [Session.directory, knows, knows'], rfl, by simpa using new⟩
  known _ := by rw [knows']; rfl
  announced := log

/-- Labels are noted that were those of the account. -/
theorem listed (unknown : before.known mode = none)
    (knows : after.known mode = some before.account.labels) (log : after.log = before.log) :
    Gains mode before after [] where
  grown := ⟨[], by simp [Session.directory, unknown, knows], rfl, by simp⟩
  known _ := by rw [knows]; rfl
  announced _ := log ▸ .refl before.log

/-- A real directory gets the labels that its account makes, which are numbered through. -/
theorem created_eq {calls : List Call} (gains : Gains .real before after names)
    (progress : Progress .real before after calls) (coherent : before.Coherent) :
    after.account.labels = before.account.labels ++ before.account.created calls ∧
      before.account.created calls = numberedFrom before.account.labelsCreated names := by
  have labels : after.account.labels = before.account.labels ++ before.account.created calls := by
    rw [progress.replay, Account.afterAll_labels]
  obtain ⟨created, grown, named, _⟩ := gains.grown
  rw [(progress.coherent coherent).1.directory, coherent.directory, labels] at grown
  obtain rfl := List.append_cancel_left grown
  refine ⟨labels, ?_⟩
  rw [← named]
  exact (before.account.created_numbered calls).1

end Gains

namespace Directory

/-! ## Searching -/

theorem search_none {path : String} {labels : List Label}
    (missing : search path false labels = none) :
    ∀ label ∈ labels, Text.sameLetters label.name path = false := by
  rw [search, Option.map_eq_none_iff, List.find?_eq_none] at missing
  intro label member
  simpa [isNamed] using missing label member

theorem search_some {path id : String} {caseSensitive : Bool} {labels : List Label}
    (found : search path caseSensitive labels = some id) :
    ∃ label ∈ labels, label.id = id ∧ isNamed path caseSensitive label = true := by
  obtain ⟨label, first, rfl⟩ := Option.map_eq_some_iff.mp found
  exact ⟨label, List.mem_of_find?_eq_some first, rfl, List.find?_some first⟩

theorem search_append (path : String) (caseSensitive : Bool) (first second : List Label) :
    search path caseSensitive (first ++ second) =
      (search path caseSensitive first).or (search path caseSensitive second) := by
  simp [search, Option.map_or]

/-- What is found stays found. -/
theorem search_extend {path id : String} {caseSensitive : Bool} {labels : List Label}
    (found : search path caseSensitive labels = some id) (added : List Label) :
    search path caseSensitive (labels ++ added) = some id := by
  rw [search_append, found, Option.some_or]

theorem search_new {name : String} {labels : List Label}
    (missing : search name false labels = none) (label : Label) (named : label.name = name) :
    search name false (labels ++ [label]) = some label.id := by
  rw [search_append, missing, Option.none_or]
  simp [search, isNamed, Text.sameLetters, named]

/-! ## Names that are there -/

/-- Whether a path is among some names, in the same letter case or in any. -/
def isThere (path : String) (caseSensitive : Bool) (names : List String) : Bool :=
  names.any fun name => if caseSensitive then name == path else Text.sameLetters name path

/-- The names of the labels that ensuring a path makes: none if the path is there, and otherwise
those of its levels that are not there. -/
def missing (path : String) (caseSensitive : Bool) (names : List String) : List String :=
  if isThere path caseSensitive names then []
  else (levels path).filter fun level => !isThere level false names

section Names

variable {path : String} {caseSensitive : Bool} {names : List String}

theorem search_isSome (path : String) (caseSensitive : Bool) (labels : List Label) :
    (search path caseSensitive labels).isSome =
      isThere path caseSensitive (labels.map (·.name)) := by
  rw [search, Option.isSome_map, isThere, List.any_map, List.isSome_find?]
  rfl

theorem isThere_append (first second : List String) :
    isThere path caseSensitive (first ++ second) =
      (isThere path caseSensitive first || isThere path caseSensitive second) := List.any_append

theorem isThere_true_iff : isThere path true names = true ↔ path ∈ names := by
  simp [isThere]

/-- A path is there in any letter case if its lower case is one of those of the names. -/
theorem isThere_false_iff :
    isThere path false names = true ↔ Text.lowered path ∈ names.map Text.lowered := by
  simp [isThere, Text.sameLetters]

/-- What is missing of a path are levels of it that are not there in any letter case. -/
theorem of_mem_missing {level : String} (absent : level ∈ missing path caseSensitive names) :
    level ∈ levels path ∧ isThere level false names = false := by
  rw [missing] at absent
  split at absent
  · simp at absent
  · simpa using List.mem_filter.mp absent

/-- A path that differs from another one in more than letter case is no more there behind it. -/
theorem isThere_behind {added : List String}
    (different : Text.lowered path ∉ added.map Text.lowered) :
    isThere path false (names ++ added) = isThere path false names := by
  have absent : isThere path false added = false := by
    rw [Bool.eq_false_iff]
    exact mt isThere_false_iff.mp different
  rw [isThere_append, absent, Bool.or_false]

/-- The first one of several paths is among those that are not there, or it is there. -/
theorem absent_cons (rest : List String) :
    (path :: rest).filter (fun other => !isThere other false names) =
      (if isThere path false names then [] else [path]) ++
        rest.filter fun other => !isThere other false names := by
  rw [List.filter_cons]
  cases isThere path false names <;> rfl

/-- A label that is made for a path is none for paths that differ in more than letter case. -/
theorem absent_behind {rest : List String} (different : Text.lowered path ∉ rest.map Text.lowered) :
    rest.filter (fun other =>
        !isThere other false (names ++ if isThere path false names then [] else [path])) =
      rest.filter fun other => !isThere other false names := by
  refine List.filter_congr fun other member => ?_
  rw [isThere_behind]
  intro made
  split at made
  · simp at made
  · rw [List.map_singleton, List.mem_singleton] at made
    exact different (made ▸ List.mem_map_of_mem member)

/-- What is missing of a path that is not there are the levels of it that are not there. -/
theorem mem_missing_lowered {name : String} :
    name ∈ (missing path false names).map Text.lowered ↔
      Text.lowered path ∉ names.map Text.lowered ∧ name ∉ names.map Text.lowered ∧
        name ∈ levels (Text.lowered path) := by
  rw [missing, ← isThere_false_iff, levels_lowered]
  cases isThere path false names with
  | true => simp
  | false =>
      rw [if_neg (by simp), List.mem_map]
      constructor
      · intro missed
        obtain ⟨level, kept, rfl⟩ := missed
        obtain ⟨member, absent⟩ := List.mem_filter.mp kept
        rw [← isThere_false_iff]
        exact ⟨by simp, by simpa using absent, List.mem_map_of_mem member⟩
      · intro missed
        obtain ⟨_, absent, lower⟩ := missed
        obtain ⟨level, member, rfl⟩ := List.mem_map.mp lower
        rw [← isThere_false_iff] at absent
        exact ⟨level, List.mem_filter.mpr ⟨member, by simpa using absent⟩, rfl⟩

/-- The levels that are not there behind the first ones of those that are not there. -/
theorem filter_levels_behind {made rest : List String}
    (split : (levels path).filter (fun level => !isThere level false names) = made ++ rest) :
    (levels path).filter (fun level => !isThere level false (names ++ made)) = rest := by
  have apart : ((made ++ rest).map Text.lowered).Nodup :=
    (levels_apart path).sublist (split ▸ List.filter_sublist.map Text.lowered)
  rw [List.map_append, List.nodup_append] at apart
  have twice : (levels path).filter (fun level => !isThere level false (names ++ made)) =
      (made ++ rest).filter fun level => !isThere level false made := by
    rw [← split, List.filter_filter]
    exact List.filter_congr fun level _ => by rw [isThere_append, Bool.not_or, Bool.and_comm]
  have none : made.filter (fun level => !isThere level false made) = [] := by
    rw [List.filter_eq_nil_iff]
    intro level member
    simpa using isThere_false_iff.mpr (List.mem_map_of_mem member)
  have all : rest.filter (fun level => !isThere level false made) = rest := by
    rw [List.filter_eq_self]
    intro level member
    have different : isThere level false ([] ++ made) = isThere level false [] :=
      isThere_behind fun inside => apart.2.2 _ inside _ (List.mem_map_of_mem member) rfl
    simpa [isThere] using different
  rw [twice, List.filter_append, none, all, List.nil_append]

/-- Behind the path itself there are no other levels. -/
theorem levels_filter_end {made rest : List String} {keep : String → Bool}
    (split : (levels path).filter keep = made ++ rest) (made_path : path ∈ made) : rest = [] := by
  obtain ⟨front, whole⟩ := List.getLast?_eq_some_iff.mp (levels_getLast? path)
  have kept : keep path = true :=
    (List.mem_filter.mp (split ▸ List.mem_append_left rest made_path)).2
  have distinct : (made ++ rest).Nodup := split ▸ (levels_nodup path).filter keep
  rw [whole, List.filter_append, List.filter_singleton, kept, cond_true] at split
  rcases List.eq_nil_or_concat rest with rfl | ⟨before, last, rfl⟩
  · rfl
  · rw [List.concat_eq_append, ← List.append_assoc] at split
    obtain ⟨_, same⟩ := List.append_inj' split rfl
    obtain rfl : path = last := by simpa using same
    exact absurd rfl ((List.nodup_append.mp distinct).2.2 path made_path path (by simp))

/-- What is missing behind the first ones of the missing levels are the other ones. -/
theorem missing_behind {made rest : List String}
    (split : missing path caseSensitive names = made ++ rest) :
    missing path caseSensitive (names ++ made) = rest := by
  cases there : isThere path caseSensitive names with
  | true =>
      rw [missing, there, if_pos rfl] at split
      obtain ⟨rfl, rfl⟩ := List.append_eq_nil_iff.mp split.symm
      rw [List.append_nil, missing, there, if_pos rfl]
  | false =>
      rw [missing, there, if_neg (by simp)] at split
      rw [missing, isThere_append, there, Bool.false_or]
      cases made_path : isThere path caseSensitive made with
      | false => exact filter_levels_behind split
      | true =>
          obtain ⟨name, member, same⟩ := List.any_eq_true.mp made_path
          have level : name ∈ levels path :=
            List.mem_of_mem_filter (split ▸ List.mem_append_left rest member)
          have whole : name = path := by
            cases caseSensitive with
            | true => simpa using same
            | false => exact level_eq_path level same
          exact (levels_filter_end split (whole ▸ member)).symm

end Names

end Directory

end MailFilters
