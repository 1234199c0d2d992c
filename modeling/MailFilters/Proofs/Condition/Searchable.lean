import MailFilters.Condition.Criteria
import MailFilters.Result

/-!
# Conditions that a search can say

A condition becomes a fragment of a search if its field, its comparator and its text allow it, and
criteria become a search if all of their conditions do.

* **`Condition.IsSearchable`** — the conditions that have a fragment.
* **`Condition.Obstructs`** — why another one has none; **`Condition.query_eq_error_iff`** — this is
  the obstacle that is told.
* **`FirstUnsearched`** — the obstacle of the first of some conditions without a fragment.
* **`Criteria.query_outcome`** — criteria have a search unless one of their conditions stands in the
  way, and the first one that does gives the obstacle.
-/

namespace MailFilters

namespace Condition

/-! ## What a search can say -/

/-- The fields whose text a search can look into. -/
def textFields : List Field := [.sender, .to, .cc, .toOrCc, .allAddresses, .subject, .body]

/-- The comparators that a search has for a text. -/
def textComparators : List Comparator := [.contains, .doesntContain, .beginsWith, .endsWith, .is]

/-- Conditions on the text of a field, or on the date if it is to be before a day of the
calendar. -/
inductive IsSearchable (condition : Condition) : Prop
  | text {part : Field} : condition.target = .field part → part ∈ textFields →
      condition.comparator ∈ textComparators → IsSearchable condition
  | date {date : Date} : condition.target = .field .date → condition.comparator = .isBefore →
      Date.read? condition.search = some date → IsSearchable condition

/-- Why a condition has no fragment: its target is none that a search can look into, its comparator
is none for its target, or its text is no date.  The text of a date counts before the comparator. -/
inductive Obstructs (condition : Condition) : Obstacle → Prop
  | junkStatus : condition.target = .field .junkStatus →
      Obstructs condition (.target condition.target)
  | header {name : String} : condition.target = .header name →
      Obstructs condition (.target condition.target)
  | text {part : Field} : condition.target = .field part → part ∈ textFields →
      condition.comparator ∉ textComparators →
      Obstructs condition (.comparison condition.target condition.comparator)
  | notADate : condition.target = .field .date → Date.read? condition.search = none →
      Obstructs condition (.notADate condition.search)
  | date {date : Date} : condition.target = .field .date →
      Date.read? condition.search = some date → condition.comparator ≠ .isBefore →
      Obstructs condition (.comparison condition.target condition.comparator)

variable {condition : Condition} {obstacle : Obstacle}

theorem searchable_or_obstructs (condition : Condition) :
    condition.IsSearchable ∨ ∃ obstacle, condition.Obstructs obstacle := by
  have onText : ∀ part ∈ textFields, condition.target = .field part →
      condition.IsSearchable ∨ ∃ obstacle, condition.Obstructs obstacle := by
    intro part listed target
    by_cases heard : condition.comparator ∈ textComparators
    · exact .inl (.text target listed heard)
    · exact .inr ⟨_, .text target listed heard⟩
  cases target : condition.target with
  | header name => exact .inr ⟨_, .header target⟩
  | field part =>
      cases part with
      | junkStatus => exact .inr ⟨_, .junkStatus target⟩
      | date =>
          cases read : Date.read? condition.search with
          | none => exact .inr ⟨_, .notADate target read⟩
          | some date =>
              by_cases before : condition.comparator = .isBefore
              · exact .inl (.date target before read)
              · exact .inr ⟨_, .date target read before⟩
      | sender | «to» | cc | toOrCc | allAddresses | subject | body =>
          exact onText _ (by decide) target

/-! ## Fragments on the text of a field -/

theorem termQuery_heard (heard : condition.comparator ∈ textComparators) (key : String) :
    ∃ text, condition.termQuery key = .ok text := by
  unfold termQuery
  cases comparator : condition.comparator with
  | contains | doesntContain | beginsWith | endsWith | «is» =>
      exact ⟨_, rfl⟩
  | isnt | isBefore =>
      rw [comparator] at heard
      exact absurd heard (by decide)

theorem termQuery_unheard (unheard : condition.comparator ∉ textComparators) (key : String) :
    condition.termQuery key = .error (.comparison condition.target condition.comparator) := by
  unfold termQuery
  cases comparator : condition.comparator with
  | contains | doesntContain | beginsWith | endsWith | «is» =>
      rw [comparator] at unheard
      exact absurd (by decide) unheard
  | isnt | isBefore => rfl

theorem anyQuery_heard (heard : condition.comparator ∈ textComparators) (keys : List String) :
    ∃ text, condition.anyQuery keys = .ok text := by
  have each : ∀ key ∈ keys, ∃ text, condition.termQuery key = .ok text :=
    fun key _ => termQuery_heard heard key
  obtain ⟨terms, found⟩ := Result.exists_mapM_eq_ok each
  rw [anyQuery, found]
  exact ⟨_, rfl⟩

theorem anyQuery_unheard (unheard : condition.comparator ∉ textComparators) (key : String)
    (keys : List String) :
    condition.anyQuery (key :: keys) =
      .error (.comparison condition.target condition.comparator) := by
  rw [anyQuery, List.mapM_cons, termQuery_unheard unheard]
  rfl

/-- On the text of a field a condition is one term, or a choice of some. -/
theorem query_text {part : Field} (target : condition.target = .field part)
    (listed : part ∈ textFields) :
    (∃ key, condition.query = condition.termQuery key) ∨
      ∃ key keys, condition.query = condition.anyQuery (key :: keys) := by
  unfold query
  rw [target]
  cases part with
  | sender | «to» | cc | subject | body => exact .inl ⟨_, rfl⟩
  | toOrCc | allAddresses => exact .inr ⟨_, _, rfl⟩
  | date | junkStatus => exact absurd listed (by decide)

/-! ## Fragments -/

theorem IsSearchable.query (searchable : condition.IsSearchable) :
    ∃ text, condition.query = .ok text := by
  cases searchable with
  | text target listed heard =>
      rcases query_text target listed with ⟨key, single⟩ | ⟨key, keys, several⟩
      · rw [single]
        exact termQuery_heard heard key
      · rw [several]
        exact anyQuery_heard heard (key :: keys)
  | date target before read =>
      rw [Condition.query, target]
      show ∃ text, condition.dateQuery = .ok text
      rw [dateQuery, read]
      exact ⟨_, if_pos before⟩

theorem Obstructs.query (obstructs : condition.Obstructs obstacle) :
    condition.query = .error obstacle := by
  cases obstructs with
  | junkStatus target => rw [Condition.query, target]
  | header target => rw [Condition.query, target]
  | text target listed unheard =>
      rcases query_text target listed with ⟨key, single⟩ | ⟨key, keys, several⟩
      · rw [single, termQuery_unheard unheard]
      · rw [several, anyQuery_unheard unheard]
  | notADate target read =>
      rw [Condition.query, target]
      show condition.dateQuery = _
      rw [dateQuery, read]
  | date target read other =>
      rw [Condition.query, target]
      show condition.dateQuery = .error (.comparison (.field .date) condition.comparator)
      rw [dateQuery, read, ← target]
      exact if_neg other

/-- The obstacle that is told for a condition is the one that it is. -/
theorem query_eq_error_iff : condition.query = .error obstacle ↔ condition.Obstructs obstacle := by
  constructor
  · intro failed
    rcases searchable_or_obstructs condition with searchable | ⟨other, obstructs⟩
    · obtain ⟨text, searched⟩ := searchable.query
      rw [searched] at failed
      simp at failed
    · have same := obstructs.query
      rw [failed, Except.error.injEq] at same
      exact same ▸ obstructs
  · exact Obstructs.query

/-- The conditions that have a fragment are those that a search can say. -/
theorem exists_query_iff : (∃ text, condition.query = .ok text) ↔ condition.IsSearchable := by
  constructor
  · intro searched
    rcases searchable_or_obstructs condition with searchable | ⟨obstacle, obstructs⟩
    · exact searchable
    · obtain ⟨text, searched⟩ := searched
      rw [obstructs.query] at searched
      simp at searched
  · exact IsSearchable.query

theorem Obstructs.not_searchable (obstructs : condition.Obstructs obstacle) :
    ¬ condition.IsSearchable := by
  intro searchable
  obtain ⟨text, searched⟩ := searchable.query
  rw [obstructs.query] at searched
  simp at searched

/-- A header is never searched, whatever its name. -/
theorem IsSearchable.on_field (searchable : condition.IsSearchable) :
    ∃ part, condition.target = .field part := by
  cases searchable with
  | text target _ _ => exact ⟨_, target⟩
  | date target _ _ => exact ⟨_, target⟩

/-- Conditions on the date whose text is no date. -/
def IsUndated (condition : Condition) : Prop :=
  condition.target = .field .date ∧ Date.read? condition.search = none

/-- Only the text of a date is told as an invalid one; all else is not supported. -/
theorem Obstructs.kind (obstructs : condition.Obstructs obstacle) :
    condition.IsUndated ∧ (∃ message, obstacle = .invalidDate message) ∨
      ¬ condition.IsUndated ∧ ∃ message, obstacle = .unsupported message := by
  cases obstructs with
  | notADate target read => exact .inl ⟨⟨target, read⟩, _, rfl⟩
  | junkStatus target => exact .inr ⟨by simp [IsUndated, target], _, rfl⟩
  | header target => exact .inr ⟨by simp [IsUndated, target], _, rfl⟩
  | date target read _ => exact .inr ⟨by simp [IsUndated, read], _, rfl⟩
  | text target listed _ =>
      refine .inr ⟨?_, _, rfl⟩
      rintro ⟨onDate, _⟩
      rw [target, Target.field.injEq] at onDate
      rw [onDate] at listed
      exact absurd listed (by decide)

end Condition

/-! ## The first condition without a fragment -/

/-- The obstacle of the first of some conditions that a search has no fragment for. -/
def FirstUnsearched (conditions : List Condition) (obstacle : Obstacle) : Prop :=
  ∃ before condition later, conditions = before ++ condition :: later ∧
    (∀ earlier ∈ before, ∃ fragment, earlier.query = .ok fragment) ∧
    condition.query = .error obstacle

theorem firstUnsearched_cons {condition : Condition} {rest : List Condition}
    {obstacle : Obstacle} :
    FirstUnsearched (condition :: rest) obstacle ↔
      condition.query = .error obstacle ∨
        (∃ fragment, condition.query = .ok fragment) ∧ FirstUnsearched rest obstacle := by
  constructor
  · intro first
    obtain ⟨before, other, later, split, searched, failed⟩ := first
    cases before with
    | nil =>
        obtain ⟨rfl, rfl⟩ := List.cons.inj split
        exact .inl failed
    | cons first before =>
        obtain ⟨rfl, rfl⟩ := List.cons.inj split
        obtain ⟨here, earlier⟩ := List.forall_mem_cons.mp searched
        exact .inr ⟨here, before, other, later, rfl, earlier, failed⟩
  · intro first
    rcases first with failed | ⟨here, before, other, later, rfl, searched, failed⟩
    · exact ⟨[], condition, rest, rfl, by simp, failed⟩
    · exact ⟨condition :: before, other, later, rfl,
        List.forall_mem_cons.mpr ⟨here, searched⟩, failed⟩

theorem exists_firstUnsearched {conditions : List Condition} :
    (∃ obstacle, FirstUnsearched conditions obstacle) ↔
      ∃ condition ∈ conditions, ∃ obstacle, condition.query = .error obstacle := by
  constructor
  · intro unsearched
    obtain ⟨obstacle, before, condition, later, rfl, _, failed⟩ := unsearched
    exact ⟨condition, by simp, obstacle, failed⟩
  · intro failing
    obtain ⟨condition, member, obstacle, failed⟩ := failing
    induction conditions with
    | nil => simp at member
    | cons first rest ih =>
        cases searched : first.query with
        | error cause => exact ⟨cause, firstUnsearched_cons.mpr (.inl searched)⟩
        | ok fragment =>
            have behind : condition ∈ rest := by
              rcases List.mem_cons.mp member with rfl | behind
              · rw [searched] at failed
                simp at failed
              · exact behind
            obtain ⟨cause, others⟩ := ih behind
            exact ⟨cause, firstUnsearched_cons.mpr (.inr ⟨⟨fragment, searched⟩, others⟩)⟩

namespace Criteria

theorem tailQuery_eq_error_iff {conditions : List Condition} {obstacle : Obstacle} :
    tailQuery conditions = .error obstacle ↔ FirstUnsearched conditions obstacle := by
  induction conditions with
  | nil => simp [tailQuery, FirstUnsearched]
  | cons condition rest ih =>
      rw [tailQuery, firstUnsearched_cons, ← ih]
      cases condition.query with
      | error cause => simp [bind, Except.bind]
      | ok fragment => cases tailQuery rest <;> simp [bind, Except.bind, pure, Except.pure]

/-- Criteria have no search for the first of their conditions that has no fragment. -/
theorem query_eq_error_iff {criteria : Criteria} {obstacle : Obstacle} :
    criteria.query = .error obstacle ↔ FirstUnsearched criteria.conditions obstacle := by
  rw [query]
  cases criteria.conditions with
  | nil => simp [FirstUnsearched]
  | cons condition rest =>
      show (do let fragment ← condition.query; return fragment ++ (← tailQuery rest)) =
        Except.error obstacle ↔ _
      rw [firstUnsearched_cons, ← tailQuery_eq_error_iff]
      cases condition.query with
      | error cause => simp [bind, Except.bind]
      | ok fragment => cases tailQuery rest <;> simp [bind, Except.bind, pure, Except.pure]

/-- Criteria have a search if a search can say each of their conditions. -/
theorem exists_query_iff {criteria : Criteria} :
    (∃ text, criteria.query = .ok text) ↔
      ∀ condition ∈ criteria.conditions, condition.IsSearchable := by
  constructor
  · intro searched condition member
    obtain ⟨text, searched⟩ := searched
    rcases condition.searchable_or_obstructs with searchable | ⟨obstacle, obstructs⟩
    · exact searchable
    · obtain ⟨first, unsearched⟩ :=
        exists_firstUnsearched.mpr ⟨condition, member, obstacle, obstructs.query⟩
      rw [query_eq_error_iff.mpr unsearched] at searched
      simp at searched
  · intro searchable
    cases outcome : criteria.query with
    | ok text => exact ⟨text, rfl⟩
    | error obstacle =>
        obtain ⟨condition, member, cause, failed⟩ :=
          exists_firstUnsearched.mp ⟨obstacle, query_eq_error_iff.mp outcome⟩
        exact absurd (searchable condition member)
          (Condition.query_eq_error_iff.mp failed).not_searchable

/-- **The search of criteria.** There is one exactly if a search can say each of the conditions, and
otherwise the first of them that it cannot say gives the obstacle: an invalid date if it is on the
date and its text is none, whatever its comparator, and something unsupported in all other cases.
A header is not said, even if it has the name of a field. -/
theorem query_outcome (criteria : Criteria) :
    ((∃ text, criteria.query = .ok text) ↔
      ∀ condition ∈ criteria.conditions, condition.IsSearchable) ∧
    (∀ obstacle, criteria.query = .error obstacle ↔
      ∃ before condition later, criteria.conditions = before ++ condition :: later ∧
        (∀ earlier ∈ before, earlier.IsSearchable) ∧ ¬ condition.IsSearchable ∧
        condition.Obstructs obstacle ∧
        (condition.IsUndated ∧ (∃ message, obstacle = .invalidDate message) ∨
          ¬ condition.IsUndated ∧ ∃ message, obstacle = .unsupported message)) ∧
    ∀ combinator name comparator search,
      ¬ Condition.IsSearchable ⟨combinator, .header name, comparator, search⟩ := by
  refine ⟨exists_query_iff, ?_, ?_⟩
  · intro obstacle
    rw [query_eq_error_iff]
    constructor
    · intro first
      obtain ⟨before, condition, later, split, searched, failed⟩ := first
      have obstructs := Condition.query_eq_error_iff.mp failed
      exact ⟨before, condition, later, split,
        fun earlier member => Condition.exists_query_iff.mp (searched earlier member),
        obstructs.not_searchable, obstructs, obstructs.kind⟩
    · intro first
      obtain ⟨before, condition, later, split, searchable, _, obstructs, _⟩ := first
      exact ⟨before, condition, later, split,
        fun earlier member => (searchable earlier member).query, obstructs.query⟩
  · intro combinator name comparator search searchable
    obtain ⟨part, target⟩ := searchable.on_field
    simp at target

/-- A header with the name of a field comes before a date that is none. -/
example : query ⟨[⟨.or, .header "from", .is, "a"⟩, ⟨.or, .field .date, .is, "b"⟩], false⟩ =
    .error (.target (.header "from")) := rfl

end Criteria

end MailFilters
