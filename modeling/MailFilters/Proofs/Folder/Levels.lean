import MailFilters.Filter.OfRule
import MailFilters.Proofs.Account.Asked
import MailFilters.Proofs.Account.Resume
import MailFilters.Proofs.Folder
import MailFilters.Proofs.Text.DecodedSlash
import Mathlib.Data.List.Infix

/-!
# Levels of folders

The names of a folder are joined with slashes to the path of a label, and a label directory splits
that path at its slashes again.  What comes back are the names of the folder unless an escape in the
locator has put a slash into one of them, and no level is empty unless the path of the locator has
nothing between its slashes.

* **`HasGap`** — whether a path has only slashes, or two of them side by side between other
  characters.
* **`namesOfPath_filled_iff`** — the paths that give names of which none is empty.
* **`splitOn_path_iff`** — the folders whose path splits into their names again.
* **`levels_path`** — the levels of such a path are its names, one after the other.
* **`read_levels`** — the folders that locators name, and the labels that are asked for when mail is
  filed there.
-/

namespace MailFilters.Folder

open MailFilters.Text

/-! ## Slashes at the ends of a path -/

/-- Only slashes are stripped from a path, and none is left at its ends. -/
theorem stripSlashes_parts (path : List Char) :
    (∃ front back, path = front ++ stripSlashes path ++ back ∧ (∀ c ∈ front, c = '/') ∧
      ∀ c ∈ back, c = '/') ∧
    (stripSlashes path).head? ≠ some '/' ∧ (stripSlashes path).getLast? ≠ some '/' := by
  -- first the slashes in front are taken away, and then those at the end of what is left
  obtain ⟨whole, opening, start⟩ := run_at_start (· == '/') path
  obtain ⟨rest, closing, stop⟩ := run_at_end (· == '/') (path.dropWhile (· == '/'))
  have stripped : (((path.dropWhile (· == '/')).reverse.dropWhile (· == '/')).reverse) =
      stripSlashes path := rfl
  rw [stripped] at rest stop
  refine ⟨⟨_, _, ?_, fun c member => by simpa using opening c member,
    fun c member => by simpa using closing c member⟩, ?_, ?_⟩
  · rw [List.append_assoc, ← rest]
    exact whole
  · intro head
    have first : (path.dropWhile (· == '/')).head? = some '/' := by
      rw [rest, List.head?_append, head]
      rfl
    exact absurd (start '/' first) (by decide)
  · exact fun last => absurd (stop '/' last) (by decide)

/-- Whether a path has nothing between two slashes: all its characters are slashes, or two of them
stand side by side between other characters. -/
def HasGap (path : List Char) : Prop :=
  stripSlashes path = [] ∨ ['/', '/'] <:+: stripSlashes path

/-- A path is split into pieces of which none is empty, unless it has a gap. -/
theorem nil_mem_pieces_iff {path : List Char} :
    [] ∈ splitOn '/' (stripSlashes path) ↔ HasGap path := by
  obtain ⟨_, start, stop⟩ := stripSlashes_parts path
  rw [nil_mem_splitOn_iff, HasGap]
  simp [start, stop]

theorem name_eq_empty_iff {piece : List Char} :
    String.ofList (percentDecode piece) = "" ↔ piece = [] := by
  rw [← percentDecode_eq_nil_iff, ← String.toList_inj]
  simp

/-- A path gives names of which none is empty, unless it has a gap. -/
theorem namesOfPath_filled_iff {path : List Char} :
    (∀ name ∈ namesOfPath path, name ≠ "") ↔ ¬ HasGap path := by
  rw [← nil_mem_pieces_iff, namesOfPath, List.forall_mem_map]
  constructor
  · intro filled member
    exact filled [] member (name_eq_empty_iff.mpr rfl)
  · intro filled piece member empty
    exact filled (name_eq_empty_iff.mp empty ▸ member)

theorem namesOfPath_nonempty (path : List Char) : namesOfPath path ≠ [] := by
  rw [namesOfPath]
  simpa using splitOn_nonempty '/' (stripSlashes path)

/-! ## Slashes in names -/

/-- The slashes at the ends of a path are no part of an escape. -/
theorem hasEscapedSlash_stripSlashes {path : List Char} :
    HasEscapedSlash (stripSlashes path) ↔ HasEscapedSlash path := by
  obtain ⟨⟨front, back, parts, opening, closing⟩, _⟩ := stripSlashes_parts path
  conv_rhs => rw [parts, hasEscapedSlash_before_slashes closing,
    hasEscapedSlash_behind_slashes opening]

/-- A path gives names without slashes, unless it has the escape of one. -/
theorem namesOfPath_free_iff {path : List Char} :
    (∀ name ∈ namesOfPath path, '/' ∉ name.toList) ↔ ¬ HasEscapedSlash path := by
  rw [← hasEscapedSlash_stripSlashes, ← joinWith_splitOn '/' (stripSlashes path),
    hasEscapedSlash_joinWith, namesOfPath, List.forall_mem_map, not_exists]
  refine forall_congr' fun piece => ?_
  rw [not_and]
  refine forall_congr' fun member => ?_
  have plain : '/' ∉ piece := splitOn_pieces_free '/' _ piece member
  rw [String.toList_ofList, slash_mem_percentDecode_iff, or_iff_right plain]

/-! ## Levels -/

theorem splitOn_joined {names : List String} (nonempty : names ≠ [])
    (free : ∀ name ∈ names, '/' ∉ name.toList) :
    splitOn '/' (joined "/" names).toList = names.map String.toList := by
  rw [joined, String.toList_ofList]
  exact splitOn_joinWith (by simpa using nonempty) (List.forall_mem_map.mpr free)

/-- The path of a folder splits into its names again, unless one of them has a slash. -/
theorem splitOn_path_iff {folder : Folder} (nonempty : folder.names ≠ []) :
    splitOn '/' folder.path.toList = folder.names.map String.toList ↔
      ∀ name ∈ folder.names, '/' ∉ name.toList := by
  refine ⟨fun split name member => ?_, splitOn_joined nonempty⟩
  refine splitOn_pieces_free '/' folder.path.toList _ ?_
  rw [split]
  exact List.mem_map_of_mem member

/-- An empty name is an empty level of the path. -/
theorem nil_mem_splitOn_path {folder : Folder} (empty : "" ∈ folder.names) :
    [] ∈ splitOn '/' folder.path.toList := by
  have nonempty : folder.names.map String.toList ≠ [] := by
    simpa using List.ne_nil_of_mem empty
  rw [path, joined, String.toList_ofList]
  show [] ∈ splitOn '/' (joinWith ['/'] (folder.names.map String.toList))
  rw [splitOn_joinWith_flatMap nonempty, List.mem_flatMap]
  exact ⟨[], List.mem_map_of_mem empty, List.mem_singleton.mpr rfl⟩

/-- The levels of a path that splits into the names of its folder are these names, one after the
other. -/
theorem levels_path {folder : Folder}
    (split : splitOn '/' folder.path.toList = folder.names.map String.toList) :
    Directory.levels folder.path = folder.names.inits.tail.map (joined "/") := by
  rw [Directory.levels, split, Directory.levelsBelow_inits, List.map_inits, ← List.map_tail, List.map_map,
    List.map_map]
  rfl

/-- A label on the way to a folder: its levels are the first ones of the names of the folder, and
none of them is empty. -/
def IsOnTheWay (names : List String) (label : String) : Prop :=
  ∃ front, front ≠ [] ∧ front <+: names ∧ label = joined "/" front ∧
    splitOn '/' label.toList = front.map String.toList ∧ ∀ name ∈ front, name ≠ ""

theorem isOnTheWay_of_mem_levels {folder : Folder} {label : String} (nonempty : folder.names ≠ [])
    (filled : ∀ name ∈ folder.names, name ≠ "")
    (free : ∀ name ∈ folder.names, '/' ∉ name.toList)
    (level : label ∈ Directory.levels folder.path) : IsOnTheWay folder.names label := by
  rw [levels_path ((splitOn_path_iff nonempty).mpr free), List.mem_map] at level
  obtain ⟨front, member, rfl⟩ := level
  have first : front <+: folder.names :=
    (List.mem_inits _ _).mp (List.mem_of_mem_tail member)
  have filledFront : front ≠ [] := by
    obtain ⟨name, rest, names⟩ := List.exists_cons_of_ne_nil nonempty
    rw [names, List.inits_cons, List.tail_cons, List.mem_map] at member
    obtain ⟨behind, _, rfl⟩ := member
    exact List.cons_ne_nil name behind
  exact ⟨front, filledFront, first, rfl,
    splitOn_joined filledFront fun name inside => free name (first.subset inside),
    fun name inside => filled name (first.subset inside)⟩

/-! ## Filing -/

/-- Filing mail into a folder asks for the levels of its path only. -/
theorem filing_asks {folder : Folder} {action : Action}
    (files : action = .copyTo folder ∨ action = .moveTo folder) (forwarded : Bool) (mode : Mode)
    (rule : Rule) (effect : Effect) :
    (carryOut mode rule effect (Plan.ofActions forwarded [action]).steps).AsksOnly
      (· ∈ Directory.levels folder.path) := by
  have levels : ∀ session : Session,
      ∀ name ∈ Directory.missing folder.path false (session.names mode) ++ [],
        name ∈ Directory.levels folder.path := by
    intro session name absent
    rw [List.append_nil] at absent
    exact (Directory.of_mem_missing absent).1
  have ensured (session : Session) := Directory.acquire_makes mode folder.path false session
  rcases files with rfl | rfl
  · exact .of_makes levels fun session =>
      (ensured session).mapFailure.bind fun id _ _ _ _ => .done trivial
  · exact .of_makes levels fun session =>
      (ensured session).mapFailure.bind fun id _ _ _ _ => .done trivial

/-! ## Locators -/

theorem names_of_ofLocator {value : String} {locator : Locator} {authority : Authority}
    {folder : Folder} (made : ofLocator value locator authority = .ok folder) :
    folder.names = namesOfPath locator.path := by
  unfold ofLocator at made
  split_ifs at made
  obtain rfl := Except.ok.inj made
  rfl

theorem names_of_readLocator {value : String} {folder : Folder}
    (read : readLocator value = .ok folder) :
    ∃ locator, Locator.read? value.toList = some locator ∧
      folder.names = namesOfPath locator.path := by
  unfold readLocator at read
  split at read
  · simp at read
  · next locator parts =>
      split at read
      · simp at read
      · exact ⟨locator, parts, names_of_ofLocator read⟩

/-- The names of a folder are those of the path of its locator. -/
theorem names_of_read {value : String} {folder : Folder}
    (named : Folder.read (some value) = .ok folder) :
    ∃ locator, Locator.read? value.toList = some locator ∧
      folder.names = namesOfPath locator.path := by
  unfold Folder.read at named
  split at named
  · simp at named
  · simp at named
  · next own _ given =>
      obtain rfl := Option.some.inj given
      cases read : readLocator value with
      | error fault => simp [read] at named
      | ok result =>
          rw [read] at named
          exact names_of_readLocator (Except.ok.inj named ▸ read)

/-- **Levels of folders.** Each folder that a locator names has names.  None of them is empty unless
the path of the locator has a gap, and the path of the folder splits into them again unless the
path of the locator has the escape of a slash.  Without either, filing mail there asks for labels on
the way to the folder only; with a gap, it makes a label with an empty level where there are no
labels yet. -/
theorem read_levels {value : String} {folder : Folder}
    (named : Folder.read (some value) = .ok folder) :
    ∃ locator, Locator.read? value.toList = some locator ∧ folder.names ≠ [] ∧
      ((∀ name ∈ folder.names, name ≠ "") ↔ ¬ HasGap locator.path) ∧
      (splitOn '/' folder.path.toList = folder.names.map String.toList ↔
        ¬ HasEscapedSlash locator.path) ∧
      (¬ HasGap locator.path → ¬ HasEscapedSlash locator.path →
        ∀ action, action = .copyTo folder ∨ action = .moveTo folder →
          ∀ forwarded mode rule effect,
            (carryOut mode rule effect (Plan.ofActions forwarded [action]).steps).AsksOnly
              (IsOnTheWay folder.names)) ∧
      (HasGap locator.path → ∀ account : Account, account.labels = [] → account.faults = 0 →
        ∃ id after, Directory.acquire .real folder.path false { account } = (.ok id, after) ∧
          ∃ label ∈ after.account.labels, [] ∈ splitOn '/' label.name.toList) := by
  obtain ⟨locator, read, names⟩ := names_of_read named
  have nonempty : folder.names ≠ [] := names ▸ namesOfPath_nonempty locator.path
  have filled : (∀ name ∈ folder.names, name ≠ "") ↔ ¬ HasGap locator.path :=
    names ▸ namesOfPath_filled_iff
  have free : (∀ name ∈ folder.names, '/' ∉ name.toList) ↔ ¬ HasEscapedSlash locator.path :=
    names ▸ namesOfPath_free_iff
  refine ⟨locator, read, nonempty, filled, (splitOn_path_iff nonempty).trans free, ?_, ?_⟩
  · intro solid plain action files forwarded mode rule effect
    exact (filing_asks files forwarded mode rule effect).mono fun label =>
      isOnTheWay_of_mem_levels nonempty (filled.mpr solid) (free.mpr plain)
  · intro gap account bare granted
    obtain ⟨id, after, ran, made⟩ := Directory.acquire_bare bare granted folder.path
    have whole : folder.path ∈ after.account.labels.map (·.name) :=
      made ▸ Directory.self_mem_levels folder.path
    obtain ⟨label, member, same⟩ := List.mem_map.mp whole
    have empty : "" ∈ folder.names := by
      by_contra absent
      exact filled.mp (fun name inside same => absent (same ▸ inside)) gap
    exact ⟨id, after, ran, label, member, same ▸ nil_mem_splitOn_path empty⟩

/-- A folder with two names has two levels. -/
theorem read_levels_archive :
    Folder.read (some "mailbox://u@h/Archive/2024") =
        .ok ⟨"h", none, "u", ["Archive", "2024"]⟩ ∧
      ∀ mode rule effect,
        (carryOut mode rule effect [.file "Archive/2024"]).AsksOnly
          (IsOnTheWay ["Archive", "2024"]) := by
  have named : Folder.read (some "mailbox://u@h/Archive/2024") =
      .ok ⟨"h", none, "u", ["Archive", "2024"]⟩ := by decide +kernel
  refine ⟨named, fun mode rule effect => ?_⟩
  obtain ⟨locator, read, _, filled, split, asks, _⟩ := read_levels named
  exact asks (filled.mp (by decide)) (split.mp (by decide +kernel)) _ (.inl rfl) false mode rule
    effect

/-- The root of an account has an empty name, which a label is asked for; so does what is between
two slashes; and an escaped slash makes two levels of one name. -/
theorem read_levels_gaps :
    Folder.read (some "mailbox://u@h/") = .ok ⟨"h", none, "u", [""]⟩ ∧
      (Directory.acquire .real "" false { account := {} }).2.account.calls =
        [.listLabels, .createLabel ""] ∧
      Folder.read (some "mailbox://u@h/a//b") = .ok ⟨"h", none, "u", ["a", "", "b"]⟩ ∧
      Folder.read (some "mailbox://u@h/x%2Fy") = .ok ⟨"h", none, "u", ["x/y"]⟩ ∧
      splitOn '/' (Folder.path ⟨"h", none, "u", ["x/y"]⟩).toList = [['x'], ['y']] := by
  decide +kernel

end MailFilters.Folder
