import MailFilters.Account.Directory
import MailFilters.Proofs.Text.Cut
import MailFilters.Proofs.Text.LowerSplit
import Mathlib.Data.List.Infix
import Mathlib.Data.List.Nodup

/-!
# Levels of paths

A path has a level for each of its slashes and one for itself.

* **`ParentsFirst`** — the levels of a path come with their parents in front of them
  (`levels_parentsFirst`).
* **`levelsBelow_inits`** — names lead to the levels that their starts are joined to.
* **`mem_levels_iff`** — the levels of a path are the path and whatever stands before a slash of it.
* **`levels_trans`** — the levels of a level are levels.
* **`levels_lowered`** — the levels of a path in lower case are the levels in lower case.
* **`levels_apart`** — two levels of a path differ in more than letter case.
-/

namespace MailFilters.Directory

/-! ## Parents -/

/-- Each of some paths comes behind its parents, or they are present. -/
def ParentsFirst (present : List String) : List String → Prop
  | [] => True
  | path :: rest =>
    (∀ parent below, path = parent ++ "/" ++ below → parent ∈ present) ∧
      ParentsFirst (path :: present) rest

/-- If a slash ends a text, or a name without slashes follows it, a slash in the whole is one of
the text. -/
theorem slash_inside {above name parent below : List Char} (free : '/' ∉ name)
    (split : above ++ name = parent ++ '/' :: below) :
    ∃ between, above = parent ++ '/' :: between := by
  rcases List.append_eq_append_iff.mp split with ⟨between, rfl, rest⟩ | ⟨between, rfl, rest⟩
  · exact absurd (rest ▸ List.mem_append_right _ List.mem_cons_self) free
  · cases between with
    | nil => exact absurd (List.nil_append name ▸ rest ▸ List.mem_cons_self) free
    | cons c between =>
        obtain ⟨rfl, rfl⟩ := List.cons.inj rest
        exact ⟨between, rfl⟩

theorem levelsBelow_parentsFirst {names : List (List Char)} {above : List Char}
    {present : List String} (free : ∀ name ∈ names, '/' ∉ name)
    (opened : ∀ parent below, above = parent ++ '/' :: below → String.ofList parent ∈ present) :
    ParentsFirst present ((levelsBelow above names).map String.ofList) := by
  induction names generalizing above present with
  | nil => trivial
  | cons name rest ih =>
      have plain := free name List.mem_cons_self
      refine ⟨?_, ih (fun other member => free other (List.mem_cons_of_mem _ member)) ?_⟩
      · intro parent below split
        have characters := congrArg String.toList split
        simp only [String.toList_ofList, String.toList_append, List.append_assoc] at characters
        obtain ⟨between, inside⟩ := slash_inside plain characters
        have member := opened _ _ inside
        rwa [String.ofList_toList] at member
      · intro parent below split
        rcases List.eq_nil_or_concat below with rfl | ⟨front, last, rfl⟩
        · obtain ⟨rfl, _⟩ := List.append_inj' split rfl
          exact List.mem_cons_self
        · rw [List.concat_eq_append, ← List.cons_append, ← List.append_assoc] at split
          obtain ⟨inside, _⟩ := List.append_inj' split rfl
          obtain ⟨between, inside⟩ := slash_inside plain inside
          exact List.mem_cons_of_mem _ (opened _ _ inside)

/-- The levels of a path come with their parents in front of them. -/
theorem levels_parentsFirst (path : String) : ParentsFirst [] (levels path) :=
  levelsBelow_parentsFirst (Text.splitOn_pieces_free '/' path.toList) (by simp)

/-- The last level of a path is the path. -/
theorem levelsBelow_getLast? {names : List (List Char)} (above : List Char)
    (nonempty : names ≠ []) :
    (levelsBelow above names).getLast? = some (above ++ Text.joinWith ['/'] names) := by
  induction names generalizing above with
  | nil => exact absurd rfl nonempty
  | cons name rest ih =>
      cases rest with
      | nil => rfl
      | cons next rest =>
          rw [levelsBelow, List.getLast?_cons, ih _ (by simp)]
          simp [Text.joinWith]

theorem levels_getLast? (path : String) : (levels path).getLast? = some path := by
  rw [levels, List.getLast?_map, levelsBelow_getLast? [] (Text.splitOn_nonempty '/' path.toList)]
  simp [Text.joinWith_splitOn]

/-! ## Levels below a path -/

theorem levelsBelow_above (above : List Char) (names : List (List Char)) :
    levelsBelow above names = (levelsBelow [] names).map (above ++ ·) := by
  induction names generalizing above with
  | nil => rfl
  | cons name rest ih =>
      rw [levelsBelow, levelsBelow, ih (above ++ name ++ ['/']), ih ([] ++ name ++ ['/'])]
      simp

theorem levelsBelow_cons (name : List Char) (rest : List (List Char)) :
    levelsBelow [] (name :: rest) = name :: (levelsBelow [] rest).map (name ++ '/' :: ·) := by
  rw [levelsBelow, levelsBelow_above]
  simp

/-- The levels that names lead to are these names, one after the other. -/
theorem levelsBelow_inits (names : List (List Char)) :
    levelsBelow [] names = names.inits.tail.map (Text.joinWith ['/']) := by
  induction names with
  | nil => rfl
  | cons name rest ih =>
      rw [levelsBelow_cons, ih, List.inits_cons, List.tail_cons]
      cases rest with
      | nil => rfl
      | cons next rest =>
          rw [List.inits_cons]
          simp [Text.joinWith]

/-- The levels that names without slashes lead to end with the last name or before a slash. -/
theorem mem_levelsBelow_iff {names : List (List Char)} (nonempty : names ≠ [])
    (free : ∀ name ∈ names, '/' ∉ name) {level : List Char} :
    level ∈ levelsBelow [] names ↔
      level = Text.joinWith ['/'] names ∨
        ∃ below, Text.joinWith ['/'] names = level ++ '/' :: below := by
  induction names generalizing level with
  | nil => exact absurd rfl nonempty
  | cons name rest ih =>
      obtain ⟨plain, others⟩ := List.forall_mem_cons.mp free
      rw [levelsBelow_cons, List.mem_cons, List.mem_map]
      cases rest with
      | nil =>
          -- the only name has no slash, so there is no level before one
          have whole : ¬ ∃ below, name = level ++ '/' :: below := by
            rintro ⟨below, rfl⟩
            exact plain (List.mem_append_right _ List.mem_cons_self)
          simp [levelsBelow, Text.joinWith, whole]
      | cons next rest =>
          have inner := @ih (by simp) others
          have path : Text.joinWith ['/'] (name :: next :: rest) =
              name ++ '/' :: Text.joinWith ['/'] (next :: rest) := by simp [Text.joinWith]
          rw [path]
          constructor
          · rintro (rfl | ⟨level, member, rfl⟩)
            · exact .inr ⟨_, rfl⟩
            · rcases inner.mp member with rfl | ⟨below, split⟩
              · exact .inl rfl
              · exact .inr ⟨below, by rw [split]; simp⟩
          · rintro (rfl | ⟨below, split⟩)
            · exact .inr ⟨_, inner.mpr (.inl rfl), rfl⟩
            · -- the slash behind the level is the one behind the first name or a later one
              rcases List.append_eq_append_iff.mp split with
                ⟨between, rfl, later⟩ | ⟨between, rfl, later⟩
              · cases between with
                | nil => exact .inl (List.append_nil _)
                | cons c between =>
                    obtain ⟨rfl, behind⟩ := List.cons.inj later
                    exact .inr ⟨between, inner.mpr (.inr ⟨below, behind⟩), rfl⟩
              · cases between with
                | nil => exact .inl (List.append_nil _).symm
                | cons c between =>
                    obtain ⟨rfl, _⟩ := List.cons.inj later
                    exact absurd (List.mem_append_right _ List.mem_cons_self) plain

theorem levelsBelow_longer (names : List (List Char)) :
    (levelsBelow [] names).Pairwise fun first second => first.length < second.length := by
  induction names with
  | nil => exact .nil
  | cons name rest ih =>
      rw [levelsBelow_cons, List.pairwise_cons, List.pairwise_map]
      refine ⟨?_, ih.imp fun longer => by simpa using longer⟩
      intro level member
      obtain ⟨_, _, rfl⟩ := List.mem_map.mp member
      simp

theorem levelsBelow_lower (names : List (List Char)) :
    levelsBelow [] (names.map Text.lower) = (levelsBelow [] names).map Text.lower := by
  induction names with
  | nil => rfl
  | cons name rest ih =>
      rw [List.map_cons, levelsBelow_cons, levelsBelow_cons, ih]
      simp [Text.lower_append_slash]

/-! ## Levels of a path -/

/-- The levels of a path are the path and whatever stands before a slash of it. -/
theorem mem_levels_iff {path level : String} :
    level ∈ levels path ↔ level = path ∨ ∃ below, path = level ++ "/" ++ below := by
  have characters : level ∈ levels path ↔
      level.toList ∈ levelsBelow [] (Text.splitOn '/' path.toList) := by
    rw [levels, List.mem_map]
    constructor
    · rintro ⟨own, member, rfl⟩
      simpa using member
    · intro member
      exact ⟨level.toList, member, String.ofList_toList⟩
  rw [characters, mem_levelsBelow_iff (Text.splitOn_nonempty '/' _)
    (Text.splitOn_pieces_free '/' _), Text.joinWith_splitOn, String.toList_inj]
  refine or_congr_right ⟨?_, ?_⟩
  · rintro ⟨below, split⟩
    refine ⟨String.ofList below, String.toList_inj.mp ?_⟩
    simp [split]
  · rintro ⟨below, rfl⟩
    exact ⟨below.toList, by simp⟩

/-- The levels of a level are levels. -/
theorem levels_trans {path level upper : String} (member : level ∈ levels path)
    (above : upper ∈ levels level) : upper ∈ levels path := by
  rw [mem_levels_iff] at member above ⊢
  rcases above with rfl | ⟨below, rfl⟩
  · exact member
  · rcases member with rfl | ⟨rest, rfl⟩
    · exact .inr ⟨below, rfl⟩
    · exact .inr ⟨below ++ "/" ++ rest, by simp [String.append_assoc]⟩

theorem levels_nodup (path : String) : (levels path).Nodup := by
  rw [levels, List.Nodup, List.pairwise_map]
  refine (levelsBelow_longer _).imp ?_
  intro first second longer same
  rw [String.ofList_inj.mp same] at longer
  exact Nat.lt_irrefl _ longer

/-- The levels of a path in lower case are the levels of the path, each in lower case. -/
theorem levels_lowered (path : String) :
    levels (Text.lowered path) = (levels path).map Text.lowered := by
  simp only [levels, Text.lowered, String.toList_ofList, Text.splitOn_lower, levelsBelow_lower,
    List.map_map]
  exact List.map_congr_left fun level _ => by simp [Text.lowered]

/-- Two levels of a path differ in more than letter case. -/
theorem levels_apart (path : String) : ((levels path).map Text.lowered).Nodup := by
  rw [← levels_lowered]
  exact levels_nodup _

theorem self_mem_levels (path : String) : path ∈ levels path := mem_levels_iff.mpr (.inl rfl)

/-- A level that has the letters of the whole path is the path. -/
theorem level_eq_path {path level : String} (member : level ∈ levels path)
    (same : Text.sameLetters level path = true) : level = path := by
  rw [Text.sameLetters, beq_iff_eq] at same
  exact List.inj_on_of_nodup_map (levels_apart path) member (self_mem_levels path) same

end MailFilters.Directory
