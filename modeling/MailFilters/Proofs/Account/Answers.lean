import MailFilters.Proofs.Account.Coherence

/-!
# What ensuring a path answers

The id that a path gets is the one that the directory then has for it, and goes on having.

* **`FirstNamed`** — the first label that has a path in some letter case has an id
  (`search_eq_some_iff`).
* **`Respelled`** — a path is there, but in other letter cases only.
* **`acquire_leaves`** — where the id of a path that is ensured comes from.
* **`acquire_stays`** — a path keeps its id, whatever the directory is used for later.
* **`acquire_keepsCase`** — a path that is ensured in its own letter case is found in it again,
  unless it was respelled.
-/

namespace MailFilters.Directory

/-! ## Searching -/

/-- The first of several labels that has a path in some letter case has an id. -/
def FirstNamed (path id : String) (labels : List Label) : Prop :=
  ∃ front label rest, labels = front ++ label :: rest ∧
    (∀ earlier ∈ front, Text.sameLetters earlier.name path = false) ∧
    Text.sameLetters label.name path = true ∧ label.id = id

/-- A path is there, but in other letter cases only. -/
def Respelled (path : String) (names : List String) : Prop :=
  path ∉ names ∧ ∃ name ∈ names, Text.sameLetters name path = true

theorem search_eq_some_iff {path id : String} {labels : List Label} :
    search path false labels = some id ↔ FirstNamed path id labels := by
  rw [search, Option.map_eq_some_iff]
  constructor
  · intro found
    obtain ⟨label, first, rfl⟩ := found
    obtain ⟨named, front, rest, rfl, others⟩ := List.find?_eq_some_iff_append.mp first
    exact ⟨front, label, rest, rfl, by simpa [isNamed] using others,
      by simpa [isNamed] using named, rfl⟩
  · intro first
    obtain ⟨front, label, rest, rfl, others, named, rfl⟩ := first
    refine ⟨label, List.find?_eq_some_iff_append.mpr ⟨?_, front, rest, rfl, ?_⟩, rfl⟩
    · simpa [isNamed] using named
    · simpa [isNamed] using others

/-- Two ways to look for a label find the same one if no label tells them apart. -/
theorem search_congr {path other : String} {caseSensitive sensitive : Bool} {labels : List Label}
    (same : ∀ label ∈ labels,
      isNamed path caseSensitive label = isNamed other sensitive label) :
    search path caseSensitive labels = search other sensitive labels := by
  rw [search, search]
  congr 1
  induction labels with
  | nil => rfl
  | cons label rest ih =>
      obtain ⟨first, others⟩ := List.forall_mem_cons.mp same
      rw [List.find?_cons, List.find?_cons, first, ih others]

theorem search_sameLetters {path other : String} (same : Text.sameLetters other path = true)
    (labels : List Label) : search other false labels = search path false labels := by
  refine search_congr fun label _ => ?_
  have equal : Text.lowered other = Text.lowered path := by simpa [Text.sameLetters] using same
  simp [isNamed, Text.sameLetters, equal]

theorem search_eq_none_iff {path : String} {caseSensitive : Bool} {labels : List Label} :
    search path caseSensitive labels = none ↔
      isThere path caseSensitive (labels.map (·.name)) = false := by
  rw [← search_isSome, Option.isSome_eq_false_iff, Option.isNone_iff_eq_none]

/-- A path is respelled if only the search in any letter case finds it. -/
theorem respelled_iff {path : String} {labels : List Label} :
    Respelled path (labels.map (·.name)) ↔
      search path true labels = none ∧ (search path false labels).isSome := by
  rw [search_eq_none_iff, Bool.eq_false_iff, search_isSome, Ne, isThere_true_iff, Respelled]
  simp [isThere]

theorem find_directory {mode : Mode} {session : Session} (knows : (session.known mode).isSome)
    (path : String) (caseSensitive : Bool) :
    find mode path caseSensitive session =
      (.ok (search path caseSensitive (session.directory mode)), session) := by
  obtain ⟨known, knows⟩ := Option.isSome_iff_exists.mp knows
  rw [find_known knows, Session.directory, knows]
  rfl

/-! ## Ensuring a path -/

section Ensured

variable {mode : Mode} {path id : String} {caseSensitive : Bool} {session after : Session}

/-- A path that is ensured leaves the missing labels behind.  Its id is the one that was found
before, or the one that is found now in any letter case. -/
theorem acquire_leaves (ran : acquire mode path caseSensitive session = (.ok id, after)) :
    Gains mode session after (missing path caseSensitive (session.names mode)) ∧
      (after.known mode).isSome ∧
      (search path caseSensitive (session.directory mode) = some id ∨
        search path caseSensitive (session.directory mode) = none ∧
          search path false (after.directory mode) = some id) := by
  obtain ⟨answer, gains⟩ := (acquire_makes ..).withGains.leaves ran
  exact ⟨gains, answer⟩

section Made

variable {created : List Label} {names : List String}
  (named : created.map (·.name) = missing path caseSensitive names)
include named

theorem made_level {label : Label} (member : label ∈ created) :
    label.name ∈ levels path ∧ isThere label.name false names = false :=
  of_mem_missing (named ▸ List.mem_map_of_mem member)

/-- Among the labels that are made for a path the letter case makes no difference to the search for
it. -/
theorem search_made (sensitive : Bool) :
    search path sensitive created = search path false created := by
  refine search_congr fun label member => ?_
  cases sensitive with
  | false => rfl
  | true =>
      rw [isNamed, isNamed, if_pos rfl, if_neg (by simp), Bool.eq_iff_iff, beq_iff_eq]
      constructor
      · intro same
        simp [Text.sameLetters, same]
      · exact level_eq_path (made_level named member).1

/-- A path that is there in some letter case is not made. -/
theorem search_made_there (there : isThere path false names = true) :
    search path false created = none := by
  rw [search_eq_none_iff, Bool.eq_false_iff]
  intro made
  obtain ⟨name, inside, same⟩ := List.any_eq_true.mp made
  obtain ⟨label, member, rfl⟩ := List.mem_map.mp inside
  obtain ⟨level, absent⟩ := made_level named member
  rw [level_eq_path level same, there] at absent
  simp at absent

end Made

/-- A path that is ensured is found in the way that was asked for, or only in other letter cases
because it was respelled. -/
theorem acquire_searches (ran : acquire mode path caseSensitive session = (.ok id, after)) :
    ¬ (caseSensitive = true ∧ Respelled path (session.names mode)) ∧
        search path caseSensitive (after.directory mode) = some id ∨
      (caseSensitive = true ∧ Respelled path (session.names mode)) ∧
        search path caseSensitive (after.directory mode) = none ∧
          search path false (session.directory mode) = some id := by
  obtain ⟨gains, _, answer⟩ := acquire_leaves ran
  obtain ⟨created, grown, named, _⟩ := gains.grown
  rw [grown] at answer
  rw [Session.names, respelled_iff, grown, search_append, search_made named]
  rcases answer with own | ⟨absent, found⟩
  · -- the path was there as it was asked for
    refine .inl ⟨?_, by rw [own, Option.some_or]⟩
    rintro ⟨rfl, missing, _⟩
    rw [missing] at own
    simp at own
  · rw [search_append] at found
    rw [absent, Option.none_or]
    cases any : search path false (session.directory mode) with
    | some own =>
        -- the path was there in other letter cases only, so it was not made
        have there : isThere path false (session.names mode) = true := by
          rw [Session.names, ← search_isSome, any]
          rfl
        have same : own = id := by simpa [any] using found
        cases caseSensitive with
        | false =>
            rw [any] at absent
            simp at absent
        | true => exact .inr ⟨⟨rfl, absent, rfl⟩, search_made_there named there, by rw [same]⟩
    | none =>
        -- the path was made
        rw [any, Option.none_or] at found
        exact .inl ⟨by simp, found⟩

/-- The id of a path is what is found for it then, in any letter case if not in the way that was
asked for. -/
theorem acquire_answers (ran : acquire mode path caseSensitive session = (.ok id, after)) :
    (search path caseSensitive (after.directory mode)).or
      (search path false (after.directory mode)) = some id := by
  obtain ⟨gains, _, _⟩ := acquire_leaves ran
  obtain ⟨created, grown, _⟩ := gains.grown
  rcases acquire_searches ran with ⟨_, found⟩ | ⟨_, absent, found⟩
  · rw [found, Option.some_or]
  · rw [absent, Option.none_or, grown, search_extend found]

/-- **Stability.** A path that is ensured gets the id of the first label that has it in some letter
case.  Whatever the directory is used for later, and whatever requests fail then, the path goes on
having this id in every letter case, and no request is made for it. -/
theorem acquire_stays (ran : acquire mode path false session = (.ok id, after))
    (lookups : List Lookup) {spelling : String} (same : Text.sameLetters spelling path = true) :
    let later := afterLookups mode after lookups
    find mode spelling false later = (.ok (some id), later) ∧
      acquire mode spelling false later = (.ok id, later) ∧
      ∃ labels, later.known mode = some labels ∧ FirstNamed path id labels := by
  intro later
  obtain ⟨labels, knows⟩ := Option.isSome_iff_exists.mp (acquire_leaves ran).2.1
  have found := acquire_answers ran
  rw [Option.or_self, Session.directory, knows, Option.getD_some] at found
  obtain ⟨calls, progress⟩ := afterLookups_progress mode after lookups
  obtain ⟨⟨added, knows'⟩, _⟩ := progress.settled labels knows
  have kept : search path false (labels ++ added) = some id := search_extend found added
  have finds : find mode spelling false later = (.ok (some id), later) := by
    rw [find_known knows', search_sameLetters same, kept]
  refine ⟨finds, ?_, labels ++ added, knows', search_eq_some_iff.mp kept⟩
  rw [acquire, Task.bind_of_ok finds]
  rfl

/-- A path gets the first of the labels that differ in letter case, and keeps it when a later path
below it cannot be made. -/
theorem acquire_stays_work :
    let labels : List Label := [⟨"Label_1", "work"⟩, ⟨"Label_2", "WORK"⟩]
    let session : Session :=
      { account := { labels, labelFaults := [none, some ⟨503, "busy"⟩] } }
    let after := (acquire .real "Work/a" false session).2
    let later := afterLookups .real after [.acquire "x/y" false, .acquire "WORK/A/b" true]
    acquire .real "Work/a" false session = (.ok "new_1", after) ∧
      find .real "WORK/A" false later = (.ok (some "new_1"), later) ∧
      acquire .real "WORK/A" false later = (.ok "new_1", later) ∧
      FirstNamed "Work/a" "new_1" (labels ++ [⟨"new_1", "Work/a"⟩, ⟨"new_2", "WORK/A/b"⟩]) := by
  intro labels session after later
  have ran : acquire .real "Work/a" false session = (.ok "new_1", after) := by decide +kernel
  have same : Text.sameLetters "WORK/A" "Work/a" = true := by decide +kernel
  have knows : later.known .real =
      some (labels ++ [⟨"new_1", "Work/a"⟩, ⟨"new_2", "WORK/A/b"⟩]) := by decide +kernel
  obtain ⟨finds, again, known, knows', first⟩ :=
    acquire_stays ran [.acquire "x/y" false, .acquire "WORK/A/b" true] same
  obtain rfl := Option.some.inj (knows.symm.trans knows')
  exact ⟨ran, finds, again, first⟩

/-- **Letter case.** A path that is ensured is found again in the same way, under the id of a label
that has it in the letter case that was asked for.  The exception is a path in its own letter case
that was respelled: it gets the id of a label in another one, and is not found in its own. -/
theorem acquire_keepsCase (ran : acquire mode path caseSensitive session = (.ok id, after)) :
    (¬ (caseSensitive = true ∧ Respelled path (session.names mode)) →
      find mode path caseSensitive after = (.ok (some id), after) ∧
        ∃ label ∈ after.directory mode, label.id = id ∧
          isNamed path caseSensitive label = true) ∧
    (caseSensitive = true ∧ Respelled path (session.names mode) →
      find mode path caseSensitive after = (.ok none, after) ∧
        FirstNamed path id (session.directory mode)) := by
  rw [find_directory (acquire_leaves ran).2.1]
  rcases acquire_searches ran with ⟨own, found⟩ | ⟨respelled, absent, found⟩
  · rw [found]
    exact ⟨fun _ => ⟨rfl, search_some found⟩, fun respelled => absurd respelled own⟩
  · rw [absent]
    exact ⟨fun own => absurd respelled own, fun _ => ⟨rfl, search_eq_some_iff.mp found⟩⟩

/-- A path is made in the letter case that was asked for, below a label in another one. -/
theorem acquire_keepsCase_work :
    let session : Session := { account := { labels := [⟨"Label_1", "work"⟩] } }
    let after := (acquire .real "Work/2024" true session).2
    acquire .real "Work/2024" true session = (.ok "new_1", after) ∧
      ¬ (true = true ∧ Respelled "Work/2024" (session.names .real)) ∧
      find .real "Work/2024" true after = (.ok (some "new_1"), after) ∧
      ∃ label ∈ after.directory .real, label.id = "new_1" ∧
        isNamed "Work/2024" true label = true := by
  intro session after
  have ran : acquire .real "Work/2024" true session = (.ok "new_1", after) := by decide +kernel
  have own : ¬ (true = true ∧ Respelled "Work/2024" (session.names .real)) := by
    rw [Respelled]
    decide +kernel
  exact ⟨ran, own, (acquire_keepsCase ran).1 own⟩

/-- A path that was respelled gets the id of the label in the other letter case, and is not found in
its own. -/
theorem acquire_respelled_work :
    let session : Session := { account := { labels := [⟨"Label_1", "work"⟩] } }
    let after := (acquire .real "Work" true session).2
    acquire .real "Work" true session = (.ok "Label_1", after) ∧
      find .real "Work" true after = (.ok none, after) ∧
      ∀ label ∈ after.directory .real, label.id = "Label_1" → label.name ≠ "Work" := by
  decide +kernel

end Ensured

end MailFilters.Directory
