import MailFilters.Proofs.Condition.Searchable
import MailFilters.Proofs.Filter.Effects

/-!
# Verdicts on rules

Several rules become filters one after the other, in one directory of labels.  Without faults each
of them fares as it does by itself.

* **`Rule.Fails`** — why a rule does not become a filter, told from its conditions and actions;
  the conditions come first.
* **`Rule.verdict`** — the obstacle of a rule, or the search and the recipient of its filter.
* **`Rule.filter_yields`** — without faults this is what making the filter of a rule comes to.
* **`filtersOf_splits`** — without faults the rules are split into filters and rejections by their
  verdicts.
-/

namespace MailFilters

/-! ## Actions -/

theorem Action.Offends.unique {before : List Action} {action : Action} {first second : Obstacle}
    (offends : Action.Offends before action first) (again : Action.Offends before action second) :
    first = second := by
  cases offends <;> cases again <;> rfl

theorem firstOffence_cons {seen rest : List Action} {action : Action} {obstacle : Obstacle} :
    FirstOffence seen (action :: rest) obstacle ↔
      Action.Offends seen action obstacle ∨
        (∀ obstacle, ¬ Action.Offends seen action obstacle) ∧
          FirstOffence (seen ++ [action]) rest obstacle := by
  constructor
  · intro offence
    obtain ⟨before, other, later, split, clear, offends⟩ := offence
    cases before with
    | nil =>
        obtain ⟨rfl, rfl⟩ := List.cons.inj split
        exact .inl (by simpa using offends)
    | cons first before =>
        obtain ⟨rfl, rfl⟩ := List.cons.inj split
        obtain ⟨here, behind⟩ := unoffending_cons.mp clear
        exact .inr ⟨here, before, other, later, rfl, behind, by simpa using offends⟩
  · intro offence
    rcases offence with here | ⟨clear, behind⟩
    · exact firstOffence_here here
    · exact behind.behind clear

/-- The plan of other actions stops for the first of them that offends, and for no other reason. -/
theorem Plan.ofActions_obstacle_iff {seen actions : List Action} {obstacle : Obstacle} :
    (ofActions (seen.any Action.isForward) actions).obstacle = some obstacle ↔
      FirstOffence seen actions obstacle := by
  induction actions generalizing seen with
  | nil => simp [ofActions, FirstOffence]
  | cons action rest ih =>
      rw [firstOffence_cons]
      rcases ofActions_cons seen action rest with ⟨stop, offends, plan⟩ | ⟨clear, _, _, plan⟩
      · rw [plan]
        constructor
        · intro same
          obtain rfl := Option.some.inj same
          exact .inl offends
        · intro offence
          rcases offence with again | ⟨clear, _⟩
          · rw [offends.unique again]
          · exact absurd offends (clear stop)
      · rw [plan]
        show (ofActions _ rest).obstacle = some obstacle ↔ _
        rw [ih]
        constructor
        · intro behind
          exact .inr ⟨clear, behind⟩
        · intro offence
          rcases offence with here | ⟨_, behind⟩
          · exact absurd here (clear obstacle)
          · exact behind

/-- The tags of a rule are no obstacle. -/
theorem Plan.ofRule_obstacle (tags : TagTable) (rule : Rule) :
    (ofRule tags rule).obstacle = (ofActions false rule.actions).obstacle := by
  rw [ofRule]
  cases stops : (ofActions false rule.actions).obstacle with
  | some obstacle => exact stops
  | none => rfl

/-! ## Verdicts -/

/-- Why a rule does not become a filter: it has no conditions, one of them has no fragment in a
search, or one of its actions offends; the first condition of that kind counts, and the actions
count only if there is none. -/
inductive Rule.Fails (rule : Rule) : Obstacle → Prop
  | bare : rule.criteria.conditions = [] → Fails rule .noConditions
  | condition {obstacle : Obstacle} : FirstUnsearched rule.criteria.conditions obstacle →
      Fails rule obstacle
  | action {obstacle : Obstacle} : rule.criteria.conditions ≠ [] →
      (∀ condition ∈ rule.criteria.conditions, ∃ fragment, condition.query = .ok fragment) →
      FirstOffence [] rule.actions obstacle → Fails rule obstacle

/-- What a rule comes to: its obstacle, or the search and the recipient of its filter. -/
def Rule.verdict (rule : Rule) : Except Obstacle (String × Option String) :=
  match rule.query with
  | .error obstacle => .error obstacle
  | .ok query =>
    match (Plan.ofActions false rule.actions).obstacle with
    | some obstacle => .error obstacle
    | none => .ok (query, rule.recipient?)

namespace Rule

variable {rule : Rule}

theorem query_bare (bare : rule.criteria.conditions = []) :
    rule.query = .error .noConditions := by
  rw [query, if_pos (by simp [bare])]

theorem query_conditions (conditions : rule.criteria.conditions ≠ []) :
    rule.query = rule.criteria.query := by
  rw [query, if_neg (by simpa using conditions)]

theorem verdict_of_error {obstacle : Obstacle} (searched : rule.query = .error obstacle) :
    rule.verdict = .error obstacle := by
  rw [verdict, searched]

theorem verdict_of_ok {query : String} (searched : rule.query = .ok query) {obstacle : Obstacle} :
    rule.verdict = .error obstacle ↔
      (Plan.ofActions false rule.actions).obstacle = some obstacle := by
  rw [verdict, searched]
  cases stops : (Plan.ofActions false rule.actions).obstacle <;> simp

/-- The search of a rule is there if all of its conditions have fragments and there are some. -/
theorem query_eq_ok (conditions : rule.criteria.conditions ≠ [])
    (searched : ∀ condition ∈ rule.criteria.conditions,
      ∃ fragment, condition.query = .ok fragment) :
    ∃ query, rule.query = .ok query := by
  rw [query_conditions conditions]
  cases outcome : rule.criteria.query with
  | ok query => exact ⟨query, rfl⟩
  | error obstacle =>
      obtain ⟨before, condition, later, split, _, failed⟩ := Criteria.query_eq_error_iff.mp outcome
      obtain ⟨fragment, made⟩ := searched condition (by simp [split])
      rw [failed] at made
      simp at made

/-- The verdict on a rule is an obstacle exactly if the rule fails for it. -/
theorem verdict_eq_error_iff {obstacle : Obstacle} :
    rule.verdict = .error obstacle ↔ rule.Fails obstacle := by
  constructor
  · intro refused
    by_cases bare : rule.criteria.conditions = []
    · rw [verdict_of_error (query_bare bare)] at refused
      rw [← Except.error.inj refused]
      exact .bare bare
    · cases searched : rule.query with
      | error cause =>
          rw [verdict_of_error searched] at refused
          rw [query_conditions bare] at searched
          rw [← Except.error.inj refused]
          exact .condition (Criteria.query_eq_error_iff.mp searched)
      | ok query =>
          have stops := (verdict_of_ok searched).mp refused
          refine .action bare ?_ (Plan.ofActions_obstacle_iff.mp stops)
          intro condition member
          cases fragment : condition.query with
          | ok text => exact ⟨text, rfl⟩
          | error cause =>
              obtain ⟨other, first⟩ :=
                exists_firstUnsearched.mpr ⟨condition, member, cause, fragment⟩
              have failed := Criteria.query_eq_error_iff.mpr first
              rw [← query_conditions bare, searched] at failed
              simp at failed
  · intro fails
    cases fails with
    | bare bare => exact verdict_of_error (query_bare bare)
    | condition first =>
        have some : rule.criteria.conditions ≠ [] := by
          intro bare
          obtain ⟨before, condition, later, split, _⟩ := first
          simp [bare] at split
        refine verdict_of_error ?_
        rw [query_conditions some]
        exact Criteria.query_eq_error_iff.mpr first
    | action some searched offence =>
        obtain ⟨query, made⟩ := query_eq_ok some searched
        exact (verdict_of_ok made).mpr (Plan.ofActions_obstacle_iff.mpr offence)

/-- The rules that fail: those without conditions, with a condition that has no fragment in a
search, with two forwards, or with a junk score other than 0 and 100. -/
theorem exists_fails_iff :
    (∃ obstacle, rule.Fails obstacle) ↔
      rule.criteria.conditions = [] ∨
        (∃ condition ∈ rule.criteria.conditions, ∃ obstacle, condition.query = .error obstacle) ∨
        rule.IsUnfit := by
  rw [isUnfit_iff]
  constructor
  · intro fails
    obtain ⟨obstacle, fails⟩ := fails
    cases fails with
    | bare bare => exact .inl bare
    | condition first => exact .inr (.inl (exists_firstUnsearched.mp ⟨obstacle, first⟩))
    | action _ _ offence =>
        obtain ⟨before, action, later, split, _, offends⟩ := offence
        refine .inr (.inr ?_)
        intro clear
        exact clear before action later obstacle split offends
  · intro cause
    by_cases bare : rule.criteria.conditions = []
    · exact ⟨_, .bare bare⟩
    · by_cases unsearched :
        ∃ condition ∈ rule.criteria.conditions, ∃ obstacle, condition.query = .error obstacle
      · obtain ⟨obstacle, first⟩ := exists_firstUnsearched.mpr unsearched
        exact ⟨obstacle, .condition first⟩
      · -- only without a failing condition do the actions count
        have unfit := (cause.resolve_left bare).resolve_left unsearched
        obtain ⟨obstacle, offence, _⟩ := Plan.ofActions_unfit unfit
        refine ⟨obstacle, .action bare ?_ offence⟩
        intro condition member
        cases fragment : condition.query with
        | ok text => exact ⟨text, rfl⟩
        | error cause => exact absurd ⟨condition, member, cause, fragment⟩ unsearched

/-- What making the filter of a rule comes to by a verdict: a filter with this search and this
recipient, or the rejection of the rule for this obstacle. -/
inductive Yields (rule : Rule) : Except Failure RuleFilter → Prop
  | made {filter : Filter} : rule.verdict = .ok (filter.query, filter.effect.forward) →
      Yields rule (.ok ⟨rule, filter⟩)
  | rejected {obstacle : Obstacle} : rule.verdict = .error obstacle →
      Yields rule (.error (.rejected ⟨obstacle, some rule⟩))

theorem obstacle?_eq_some_iff {tags : TagTable} {obstacle : Obstacle} :
    rule.obstacle? tags = some obstacle ↔ rule.verdict = .error obstacle := by
  rw [obstacle?]
  cases searched : rule.query with
  | error cause => rw [verdict_of_error searched, Option.some_inj, Except.error.injEq]
  | ok query => rw [verdict_of_ok searched, ← Plan.ofRule_obstacle tags]

/-- Whatever the names of tags, the obstacle of a rule is the one that the rule fails for. -/
theorem obstacle?_iff_fails {tags : TagTable} {obstacle : Obstacle} :
    rule.obstacle? tags = some obstacle ↔ rule.Fails obstacle :=
  obstacle?_eq_some_iff.trans verdict_eq_error_iff

/-- Without faults making the filter of a rule comes to what the verdict says, whatever the labels
and the names of tags. -/
theorem filter_yields (mode : Mode) (tags : TagTable) (rule : Rule) {session : Session}
    (serves : session.Serves) :
    (rule.filter mode tags session).2.Serves ∧ rule.Yields (rule.filter mode tags session).1 := by
  obtain ⟨calls, progress, forLabels, compiles⟩ := rule.filter_compiles mode tags session
  refine ⟨serves.afterAll progress.replay, ?_⟩
  generalize (rule.filter mode tags session).1 = outcome at compiles
  cases compiles with
  -- requests for labels are all that making a filter asks for, and none of them is refused
  | failed refused => exact absurd refused (serves.not_refuses forLabels _)
  | unfit stops => exact .rejected (obstacle?_eq_some_iff.mp stops)
  | made clear _ searched forwards _ =>
      refine .made ?_
      rw [obstacle?, searched] at clear
      have stops : (Plan.ofActions false rule.actions).obstacle = none :=
        (Plan.ofRule_obstacle tags rule).symm.trans clear
      rw [verdict, searched, forwards]
      show (match (Plan.ofActions false rule.actions).obstacle with
        | some obstacle => Except.error obstacle
        | none => Except.ok (_, rule.recipient?)) = _
      rw [stops]

end Rule

/-! ## Several rules -/

/-- Whether the verdict on a rule is no obstacle. -/
def Rule.passes (rule : Rule) : Bool := rule.verdict.isOk

/-- Filters and rejections split some rules by their verdicts: each rule is in one of the two lists,
and both are in the order of the rules. -/
structure Splits (rules : List Rule) (filters : List RuleFilter) (rejections : List Rejection) :
    Prop where
  accepted : filters.map (·.rule) = rules.filter Rule.passes
  refused : rejections.map (·.rule) = (rules.filter (!·.passes)).map some
  made : ∀ made ∈ filters, made.rule.verdict = .ok (made.filter.query, made.filter.effect.forward)
  met : ∀ rejection ∈ rejections, ∃ rule, rejection.rule = some rule ∧
    rule.verdict = .error rejection.obstacle

namespace Splits

variable {rules : List Rule} {filters : List RuleFilter} {rejections : List Rejection}

theorem behindFilter (splits : Splits rules filters rejections) {rule : Rule} {filter : Filter}
    (verdict : rule.verdict = .ok (filter.query, filter.effect.forward)) :
    Splits (rule :: rules) (⟨rule, filter⟩ :: filters) rejections := by
  have passes : rule.passes = true := by rw [Rule.passes, verdict]; rfl
  constructor
  · rw [List.map_cons, splits.accepted, List.filter_cons_of_pos passes]
  · rw [splits.refused, List.filter_cons_of_neg (by simp [passes])]
  · exact List.forall_mem_cons.mpr ⟨verdict, splits.made⟩
  · exact splits.met

theorem behindRejection (splits : Splits rules filters rejections) {rule : Rule}
    {obstacle : Obstacle} (verdict : rule.verdict = .error obstacle) :
    Splits (rule :: rules) filters (⟨obstacle, some rule⟩ :: rejections) := by
  have fails : rule.passes = false := by rw [Rule.passes, verdict]; rfl
  constructor
  · rw [splits.accepted, List.filter_cons_of_neg (by simp [fails])]
  · rw [List.map_cons, splits.refused, List.filter_cons_of_pos (by simp [fails]), List.map_cons]
  · exact splits.made
  · exact List.forall_mem_cons.mpr ⟨⟨rule, rfl, verdict⟩, splits.met⟩

end Splits

/-- Without faults the rules are split by their verdicts. -/
theorem filtersOf_outcome (mode : Mode) (tags : TagTable) (rules : List Rule) {session : Session}
    (serves : session.Serves) :
    ∃ filters rejections after,
      filtersOf mode tags rules session = (.ok (filters, rejections), after) ∧
        Splits rules filters rejections := by
  induction rules generalizing session with
  | nil => exact ⟨[], [], session, rfl, rfl, rfl, by simp, by simp⟩
  | cons rule rest ih =>
      obtain ⟨serves', yields⟩ := rule.filter_yields mode tags serves
      cases ran : rule.filter mode tags session with
      | mk outcome after =>
          rw [ran] at serves' yields
          cases yields with
          | made verdict =>
              obtain ⟨filters, rejections, last, others, splits⟩ := ih serves'
              refine ⟨_, rejections, last, ?_, splits.behindFilter verdict⟩
              rw [filtersOf_made ran, others]
              rfl
          | @rejected obstacle verdict =>
              -- the note that the rule is set aside leaves the account as it is
              have noted : (after.noted rule ⟨obstacle, some rule⟩).Serves :=
                ⟨serves'.lists, serves'.creates⟩
              obtain ⟨filters, rejections, last, others, splits⟩ := ih noted
              refine ⟨filters, _, last, ?_, splits.behindRejection verdict⟩
              rw [filtersOf_rejected ran, others]
              rfl

/-- **Verdicts.** Without faults the rules are split into filters and rejections by their verdicts.
The verdict on a rule is what making its filter by itself comes to, with any labels in any mode; it
is an obstacle exactly if the rule fails for it, and rules fail for their conditions first and then
for their actions. -/
theorem filtersOf_splits (mode : Mode) (tags : TagTable) (rules : List Rule) {session : Session}
    (serves : session.Serves) :
    (∃ filters rejections after,
      filtersOf mode tags rules session = (.ok (filters, rejections), after) ∧
        Splits rules filters rejections) ∧
    ∀ rule ∈ rules,
      (∀ (mode : Mode) (tags : TagTable) (alone : Session), alone.Serves →
        rule.Yields (rule.filter mode tags alone).1) ∧
      (∀ obstacle, rule.verdict = .error obstacle ↔ rule.Fails obstacle) ∧
      ((∃ obstacle, rule.Fails obstacle) ↔
        rule.criteria.conditions = [] ∨
          (∃ condition ∈ rule.criteria.conditions, ∃ obstacle, condition.query = .error obstacle) ∨
          rule.IsUnfit) := by
  refine ⟨filtersOf_outcome mode tags rules serves, ?_⟩
  intro rule _
  refine ⟨?_, fun obstacle => Rule.verdict_eq_error_iff, Rule.exists_fails_iff⟩
  intro mode tags alone serves
  exact (rule.filter_yields mode tags serves).2

/-- Four rules, of which the first and the last pass; the second one has created a label before it
is rejected, and the third one is rejected for its date and not for its score. -/
theorem filtersOf_splits_mixed :
    let session : Session := { account := { labels := [⟨"Label_7", "work"⟩] } }
    let subject : Condition := ⟨.and, .field .subject, .contains, "x"⟩
    let folder : Folder := ⟨"h", none, "u", ["Work", "2024"]⟩
    let rules : List Rule :=
      [{ name := "a", criteria := { conditions := [subject] }, actions := [.forward colleague] },
       { name := "b", criteria := { conditions := [subject] }
         actions := [.copyTo folder, .forward colleague, .forward colleague] },
       { name := "c", criteria := { conditions := [subject, ⟨.and, .field .date, .isBefore, "x"⟩] }
         actions := [.junkScore 7] },
       { name := "d", criteria := { conditions := [subject] }, actions := [.moveTo folder] }]
    session.Serves ∧ ∃ filters rejections after,
      filtersOf .real TagTable.initial rules session = (.ok (filters, rejections), after) ∧
        Splits rules filters rejections ∧ filters.map (·.rule.name) = ["a", "d"] ∧
        rejections.map (·.obstacle) = [.secondForward, .notADate "x"] := by
  intro session subject folder rules
  have serves : session.Serves := ⟨by simp [Silent, session], by simp [Silent, session]⟩
  obtain ⟨filters, rejections, after, ran, splits⟩ :=
    (filtersOf_splits .real TagTable.initial rules serves).1
  have names : (filtersOf .real TagTable.initial rules session).1.map
      (fun result => (result.1.map (·.rule.name), result.2.map (·.obstacle))) =
        .ok (["a", "d"], [.secondForward, .notADate "x"]) := by decide +kernel
  rw [ran] at names
  obtain ⟨passed, failed⟩ := Prod.mk.inj (Except.ok.inj names)
  exact ⟨serves, filters, rejections, after, ran, splits, passed, failed⟩

end MailFilters
