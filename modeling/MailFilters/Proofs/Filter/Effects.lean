import Mathlib.Data.List.Basic
import MailFilters.Proofs.Account.Service
import MailFilters.Proofs.Filter.OfRule

/-!
# What the actions of a rule come to

The effect of a rule, told from its actions instead of from its plan.

* **`FirstOffence`** — the first action that a filter cannot have: a forward behind another one, or
  a junk score other than 0 and 100.
* **`Rule.IsUnfit`** — the rules with such an action (`isUnfit_iff`).
* **`Plan.ofActions_cons`** — what one action does to a plan; **`Plan.ofActions_fit`** — what all
  of them do.
* **`carryOut_finds`** — what carrying out steps comes to.
* **`Rule.Describes`** — the effect that the actions of a rule describe.
* **`Rule.effect_described`** — without faults a rule that is not unfit has this effect, and where
  its tags stand among its other actions makes no difference.
-/

namespace MailFilters

/-! ## Actions one by one -/

namespace Action

/-- Whether an action is a tag. -/
def isTag : Action → Bool
  | addTag _ => true
  | _ => false

/-- Whether an action is a forward. -/
def isForward : Action → Bool
  | forward _ => true
  | _ => false

/-- The path of the folder that an action files messages into. -/
def folderPath? : Action → Option String
  | copyTo folder | moveTo folder => some folder.path
  | _ => none

/-- The label that an action other than a tag adds, if each path has an id. -/
def label? (idOf : String → String) : Action → Option String
  | copyTo folder | moveTo folder => some (idOf folder.path)
  | delete => some SystemLabel.trash
  | junkScore score => if score = 100 then some SystemLabel.spam else none
  | _ => none

/-- The label that an action removes. -/
def removed? : Action → Option String
  | moveTo _ => some SystemLabel.inbox
  | junkScore score => if score = 0 then some SystemLabel.spam else none
  | markRead => some SystemLabel.unread
  | _ => none

/-- The path of the label of a tag, unless it is the one for important messages or plain tags may
not be added. -/
def tagPath? (tags : TagTable) (plainTags : Bool) : Action → Option String
  | addTag tag =>
    if tag = TagTable.important then none else if plainTags then some (tags.nameOf tag) else none
  | _ => none

/-- The label that a tag adds, if each path has an id. -/
def tagLabel? (tags : TagTable) (plainTags : Bool) (idOf : String → String) : Action → Option String
  | addTag tag =>
    if tag = TagTable.important then some SystemLabel.important
    else if plainTags then some (idOf (tags.nameOf tag))
    else none
  | _ => none

/-- An action behind others that a filter cannot have: a forward behind a forward, or a junk score
other than 0 and 100. -/
inductive Offends (before : List Action) : Action → Obstacle → Prop
  | forward {earlier recipient : Recipient} : .forward earlier ∈ before →
      Offends before (.forward recipient) .secondForward
  | score {score : Nat} : score ≠ 0 → score ≠ 100 →
      Offends before (.junkScore score) (.junkScore score)

end Action

open MailFilters.Action (Offends)

/-- None of some actions offends behind those that were seen before it. -/
def Unoffending (seen actions : List Action) : Prop :=
  ∀ before action later obstacle, actions = before ++ action :: later →
    ¬ Offends (seen ++ before) action obstacle

/-- The obstacle of the first of some actions that offends behind those that were seen before. -/
def FirstOffence (seen actions : List Action) (obstacle : Obstacle) : Prop :=
  ∃ before action later, actions = before ++ action :: later ∧ Unoffending seen before ∧
    Offends (seen ++ before) action obstacle

/-- A junk score other than 0 and 100. -/
def Action.IsOddScore (action : Action) : Prop :=
  ∃ score, action = .junkScore score ∧ score ≠ 0 ∧ score ≠ 100

/-- A rule whose actions a filter cannot have: it forwards twice or has a junk score other than 0
and 100. -/
def Rule.IsUnfit (rule : Rule) : Prop :=
  2 ≤ rule.actions.countP Action.isForward ∨ ∃ action ∈ rule.actions, action.IsOddScore

theorem Action.isForward_iff {action : Action} :
    action.isForward = true ↔ ∃ recipient, action = .forward recipient := by
  cases action <;> simp [isForward]

theorem any_isForward_iff {seen : List Action} :
    seen.any Action.isForward = true ↔ ∃ recipient, .forward recipient ∈ seen := by
  rw [List.any_eq_true]
  constructor
  · intro forwarded
    obtain ⟨action, member, forwards⟩ := forwarded
    obtain ⟨recipient, rfl⟩ := Action.isForward_iff.mp forwards
    exact ⟨recipient, member⟩
  · intro forwarded
    obtain ⟨recipient, member⟩ := forwarded
    exact ⟨_, member, rfl⟩

theorem Unoffending.nil (seen : List Action) : Unoffending seen [] := by
  intro before action later obstacle split
  simp at split

theorem unoffending_cons {seen rest : List Action} {action : Action} :
    Unoffending seen (action :: rest) ↔
      (∀ obstacle, ¬ Offends seen action obstacle) ∧ Unoffending (seen ++ [action]) rest := by
  constructor
  · intro clear
    refine ⟨?_, ?_⟩
    · intro obstacle offends
      exact clear [] action rest obstacle rfl (by simpa using offends)
    · intro before other later obstacle split offends
      refine clear (action :: before) other later obstacle (by rw [split]; rfl) ?_
      simpa using offends
  · intro clear before other later obstacle split offends
    cases before with
    | nil =>
        obtain ⟨rfl, rfl⟩ := List.cons.inj split
        exact clear.1 obstacle (by simpa using offends)
    | cons first before =>
        obtain ⟨rfl, rfl⟩ := List.cons.inj split
        exact clear.2 before other later obstacle rfl (by simpa using offends)

theorem firstOffence_here {seen rest : List Action} {action : Action} {obstacle : Obstacle}
    (offends : Offends seen action obstacle) : FirstOffence seen (action :: rest) obstacle :=
  ⟨[], action, rest, rfl, .nil seen, by simpa using offends⟩

theorem FirstOffence.behind {seen rest : List Action} {action : Action} {obstacle : Obstacle}
    (clear : ∀ obstacle, ¬ Offends seen action obstacle)
    (offence : FirstOffence (seen ++ [action]) rest obstacle) :
    FirstOffence seen (action :: rest) obstacle := by
  obtain ⟨before, other, later, rfl, unoffending, offends⟩ := offence
  exact ⟨action :: before, other, later, rfl, unoffending_cons.mpr ⟨clear, unoffending⟩,
    by simpa using offends⟩

theorem offends_iff {seen : List Action} {action : Action} :
    (∃ obstacle, Offends seen action obstacle) ↔
      (action.isForward = true ∧ seen.any Action.isForward = true) ∨ action.IsOddScore := by
  constructor
  · intro offence
    obtain ⟨obstacle, offends⟩ := offence
    cases offends with
    | forward member => exact .inl ⟨rfl, any_isForward_iff.mpr ⟨_, member⟩⟩
    | score other odd => exact .inr ⟨_, rfl, other, odd⟩
  · intro offence
    rcases offence with ⟨forwards, behind⟩ | ⟨score, rfl, other, odd⟩
    · obtain ⟨recipient, rfl⟩ := Action.isForward_iff.mp forwards
      obtain ⟨earlier, member⟩ := any_isForward_iff.mp behind
      exact ⟨_, .forward member⟩
    · exact ⟨_, .score other odd⟩

/-- Actions do not offend if there is one forward at most, none behind a forward, and no junk score
but 0 and 100. -/
theorem unoffending_iff {seen actions : List Action} :
    Unoffending seen actions ↔
      actions.countP Action.isForward ≤ 1 ∧
        (seen.any Action.isForward = true → actions.countP Action.isForward = 0) ∧
        ∀ action ∈ actions, ¬ action.IsOddScore := by
  induction actions generalizing seen with
  | nil => simp [Unoffending.nil]
  | cons action rest ih =>
      rw [unoffending_cons, ih, ← not_exists, offends_iff, List.countP_cons, List.any_append,
        List.forall_mem_cons]
      cases forwards : action.isForward with
      | true =>
          -- a forward must be the first one, and no other one may be behind it
          constructor
          · intro clear
            obtain ⟨first, _, none, proper⟩ := clear
            rw [not_or] at first
            have alone := none (by simp [forwards])
            refine ⟨by simp [alone], ?_, first.2, proper⟩
            intro behind
            exact absurd ⟨rfl, behind⟩ first.1
          · intro clear
            obtain ⟨one, none, proper, others⟩ := clear
            simp only [if_true] at one none
            refine ⟨?_, by omega, fun _ => by omega, others⟩
            rw [not_or]
            refine ⟨?_, proper⟩
            intro behind
            exact absurd (none behind.2) (by omega)
      | false =>
          have same : (seen.any Action.isForward || [action].any Action.isForward) =
              seen.any Action.isForward := by simp [forwards]
          simp only [same, Bool.false_eq_true, false_and, false_or, if_false, Nat.add_zero]
          constructor
          · intro clear
            obtain ⟨proper, one, none, others⟩ := clear
            exact ⟨one, none, proper, others⟩
          · intro clear
            obtain ⟨one, none, proper, others⟩ := clear
            exact ⟨proper, one, none, others⟩

/-- The rules with an action that offends are the unfit ones. -/
theorem isUnfit_iff {rule : Rule} : rule.IsUnfit ↔ ¬ Unoffending [] rule.actions := by
  have fits : Unoffending [] rule.actions ↔
      ¬ 2 ≤ rule.actions.countP Action.isForward ∧ ¬ ∃ action ∈ rule.actions, action.IsOddScore := by
    rw [unoffending_iff, Nat.not_le, Nat.lt_succ_iff]
    simp
  rw [fits, Rule.IsUnfit, ← not_or, not_not]

/-! ## Plans -/

namespace Step

/-- The path that a step needs a label for. -/
def path? : Step → Option String
  | .file path => some path
  | _ => none

/-- The label that a step adds, if each path has an id. -/
def added? (idOf : String → String) : Step → Option String
  | .file path => some (idOf path)
  | .add id => some id
  | _ => none

/-- The label that a step removes. -/
def removed? : Step → Option String
  | .remove id => some id
  | _ => none

end Step

/-- Steps that do what actions other than tags come to. -/
structure Renders (steps : List Step) (actions : List Action) : Prop where
  paths : steps.filterMap Step.path? = actions.filterMap Action.folderPath?
  added : ∀ idOf, steps.filterMap (·.added? idOf) = actions.filterMap (·.label? idOf)
  removed : steps.filterMap Step.removed? = actions.filterMap Action.removed?
  recipients : steps.filterMap Step.recipient? = actions.filterMap Action.recipient?

theorem Renders.append {first second : List Step} {actions rest : List Action}
    (front : Renders first actions) (back : Renders second rest) :
    Renders (first ++ second) (actions ++ rest) where
  paths := by rw [List.filterMap_append, List.filterMap_append, front.paths, back.paths]
  added idOf := by
    rw [List.filterMap_append, List.filterMap_append, front.added, back.added]
  removed := by rw [List.filterMap_append, List.filterMap_append, front.removed, back.removed]
  recipients := by
    rw [List.filterMap_append, List.filterMap_append, front.recipients, back.recipients]

namespace Plan

/-- The plan of an action that does not offend: its steps and the plan of the actions behind it. -/
theorem ofActions_step {seen rest : List Action} {action : Action} (steps : List Step)
    (noForward : action.isForward = false) (proper : ¬ action.IsOddScore)
    (renders : Renders steps [action])
    (plan : ∀ forwarded, ofActions forwarded (action :: rest) =
      after steps (ofActions forwarded rest)) :
    (∀ obstacle, ¬ Offends seen action obstacle) ∧ ∃ steps, Renders steps [action] ∧
      ofActions (seen.any Action.isForward) (action :: rest) =
        after steps (ofActions ((seen ++ [action]).any Action.isForward) rest) := by
  refine ⟨?_, steps, renders, ?_⟩
  · intro obstacle offends
    rcases offends_iff.mp ⟨obstacle, offends⟩ with ⟨forwards, _⟩ | odd
    · simp [noForward] at forwards
    · exact proper odd
  · have same : (seen ++ [action]).any Action.isForward = seen.any Action.isForward := by
      simp [noForward]
    rw [same, plan]

/-- **One action.** It offends, and the plan stops; or steps come first that do what the action
comes to, and then the plan of the actions behind it. -/
theorem ofActions_cons (seen : List Action) (action : Action) (rest : List Action) :
    (∃ obstacle, Offends seen action obstacle ∧
      ofActions (seen.any Action.isForward) (action :: rest) = { obstacle := some obstacle }) ∨
    (∀ obstacle, ¬ Offends seen action obstacle) ∧ ∃ steps, Renders steps [action] ∧
      ofActions (seen.any Action.isForward) (action :: rest) =
        after steps (ofActions ((seen ++ [action]).any Action.isForward) rest) := by
  -- the steps of the other actions are the same behind a forward and not behind one
  have proper : ∀ {other : Action}, (∀ score, other ≠ .junkScore score) → ¬ other.IsOddScore := by
    intro other different odd
    obtain ⟨score, same, _⟩ := odd
    exact different score same
  cases action with
  | forward recipient =>
      cases behind : seen.any Action.isForward with
      | true =>
          obtain ⟨earlier, member⟩ := any_isForward_iff.mp behind
          exact .inl ⟨_, .forward member, rfl⟩
      | false =>
          refine .inr ⟨?_, [.forward recipient.address], ⟨rfl, fun _ => rfl, rfl, rfl⟩, ?_⟩
          · intro obstacle offends
            cases offends with
            | forward member => simp [any_isForward_iff.mpr ⟨_, member⟩] at behind
          · rw [List.any_append, behind]
            rfl
  | junkScore score =>
      by_cases zero : score = 0
      · subst zero
        exact .inr (ofActions_step [.remove SystemLabel.spam] rfl (by simp [Action.IsOddScore])
          ⟨rfl, fun _ => rfl, rfl, rfl⟩ fun _ => rfl)
      · by_cases full : score = 100
        · subst full
          exact .inr (ofActions_step [.add SystemLabel.spam] rfl (by simp [Action.IsOddScore])
            ⟨rfl, fun _ => rfl, rfl, rfl⟩ fun _ => rfl)
        · refine .inl ⟨_, .score zero full, ?_⟩
          rw [ofActions, if_neg zero, if_neg full]
  | addTag _ =>
      exact .inr (ofActions_step [] rfl (proper (by simp)) ⟨rfl, fun _ => rfl, rfl, rfl⟩
        fun _ => rfl)
  | copyTo folder =>
      exact .inr (ofActions_step [.file folder.path] rfl (proper (by simp))
        ⟨rfl, fun _ => rfl, rfl, rfl⟩ fun _ => rfl)
  | moveTo folder =>
      exact .inr (ofActions_step [.file folder.path, .remove SystemLabel.inbox] rfl
        (proper (by simp)) ⟨rfl, fun _ => rfl, rfl, rfl⟩ fun _ => rfl)
  | delete =>
      exact .inr (ofActions_step [.add SystemLabel.trash] rfl (proper (by simp))
        ⟨rfl, fun _ => rfl, rfl, rfl⟩ fun _ => rfl)
  | markRead =>
      exact .inr (ofActions_step [.remove SystemLabel.unread] rfl (proper (by simp))
        ⟨rfl, fun _ => rfl, rfl, rfl⟩ fun _ => rfl)
  | markFlagged =>
      exact .inr (ofActions_step [.skip .markFlagged] rfl (proper (by simp))
        ⟨rfl, fun _ => rfl, rfl, rfl⟩ fun _ => rfl)
  | reply model =>
      exact .inr (ofActions_step [.skip (.reply model)] rfl (proper (by simp))
        ⟨rfl, fun _ => rfl, rfl, rfl⟩ fun _ => rfl)
  | stopExecution =>
      exact .inr (ofActions_step [.skip .stopExecution] rfl (proper (by simp))
        ⟨rfl, fun _ => rfl, rfl, rfl⟩ fun _ => rfl)

/-- The plan of actions that do not offend has no obstacle, and does what they come to. -/
theorem ofActions_fit {seen actions : List Action} (clear : Unoffending seen actions) :
    (ofActions (seen.any Action.isForward) actions).obstacle = none ∧
      Renders (ofActions (seen.any Action.isForward) actions).steps actions := by
  induction actions generalizing seen with
  | nil => exact ⟨rfl, rfl, fun _ => rfl, rfl, rfl⟩
  | cons action rest ih =>
      obtain ⟨first, later⟩ := unoffending_cons.mp clear
      rcases ofActions_cons seen action rest with ⟨obstacle, offends, _⟩ | ⟨_, steps, renders, plan⟩
      · exact absurd offends (first obstacle)
      · obtain ⟨obstacle, behind⟩ := ih later
        rw [plan]
        exact ⟨obstacle, renders.append behind⟩

/-- The plan of other actions stops at the first one that offends. -/
theorem ofActions_unfit {seen actions : List Action} (unfit : ¬ Unoffending seen actions) :
    ∃ obstacle, FirstOffence seen actions obstacle ∧
      (ofActions (seen.any Action.isForward) actions).obstacle = some obstacle := by
  induction actions generalizing seen with
  | nil => exact absurd (.nil seen) unfit
  | cons action rest ih =>
      rcases ofActions_cons seen action rest with ⟨obstacle, offends, plan⟩ | ⟨first, _, _, plan⟩
      · rw [plan]
        exact ⟨obstacle, firstOffence_here offends, rfl⟩
      · have later : ¬ Unoffending (seen ++ [action]) rest :=
          fun later => unfit (unoffending_cons.mpr ⟨first, later⟩)
        obtain ⟨obstacle, offence, stops⟩ := ih later
        rw [plan]
        exact ⟨obstacle, offence.behind first, stops⟩

/-- The step of a tag, if there is one. -/
def tagStep? (tags : TagTable) (plainTags : Bool) : Action → Option Step
  | .addTag tag =>
    if tag = TagTable.important then some (.add SystemLabel.important)
    else if plainTags then some (.file (tags.nameOf tag))
    else none
  | _ => none

theorem tagSteps_eq (tags : TagTable) (plainTags : Bool) (actions : List Action) :
    tagSteps tags plainTags actions = actions.filterMap (tagStep? tags plainTags) := by
  induction actions with
  | nil => rfl
  | cons action rest ih =>
      cases action with
      | addTag tag =>
          by_cases important : tag = TagTable.important
          · simp [tagSteps, tagStep?, important, ih]
          · cases plainTags <;> simp [tagSteps, tagStep?, important, ih]
      | _ => exact ih

theorem tagStep?_renders (tags : TagTable) (plainTags : Bool) (action : Action) :
    let step := tagStep? tags plainTags action
    step.bind Step.path? = action.tagPath? tags plainTags ∧
      (∀ idOf, step.bind (·.added? idOf) = action.tagLabel? tags plainTags idOf) ∧
      step.bind Step.removed? = none ∧ step.bind Step.recipient? = none := by
  cases action with
  | addTag tag =>
      by_cases important : tag = TagTable.important
      · simp [tagStep?, Action.tagPath?, Action.tagLabel?, important, Step.path?, Step.added?,
          Step.removed?, Step.recipient?]
      · cases plainTags <;>
          simp [tagStep?, Action.tagPath?, Action.tagLabel?, important, Step.path?, Step.added?,
            Step.removed?, Step.recipient?]
  | _ => exact ⟨rfl, fun _ => rfl, rfl, rfl⟩

/-- What the steps of tags do. -/
theorem tagSteps_renders (tags : TagTable) (plainTags : Bool) (actions : List Action) :
    let steps := tagSteps tags plainTags actions
    steps.filterMap Step.path? = actions.filterMap (·.tagPath? tags plainTags) ∧
      (∀ idOf, steps.filterMap (·.added? idOf) =
        actions.filterMap (·.tagLabel? tags plainTags idOf)) ∧
      steps.filterMap Step.removed? = [] ∧ steps.filterMap Step.recipient? = [] := by
  have one := tagStep?_renders tags plainTags
  simp only [tagSteps_eq, List.filterMap_filterMap]
  refine ⟨?_, ?_, ?_, ?_⟩
  · exact List.filterMap_congr fun action _ => (one action).1
  · intro idOf
    exact List.filterMap_congr fun action _ => (one action).2.1 idOf
  · exact List.filterMap_eq_nil_iff.mpr fun action _ => (one action).2.2.1
  · exact List.filterMap_eq_nil_iff.mpr fun action _ => (one action).2.2.2

end Plan

/-- Whether a rule may add plain tags: none of its actions files messages into a folder. -/
def Rule.addsPlainTags (rule : Rule) : Bool := !rule.actions.any Plan.isFiling

/-- The paths that a rule needs labels for. -/
def Rule.paths (tags : TagTable) (rule : Rule) : List String :=
  rule.actions.filterMap Action.folderPath? ++
    rule.actions.filterMap (·.tagPath? tags rule.addsPlainTags)

/-- The labels that a rule adds if each path has an id: those of its other actions in order, and
then those of its tags in order. -/
def Rule.addedLabels (tags : TagTable) (idOf : String → String) (rule : Rule) : List String :=
  rule.actions.filterMap (·.label? idOf) ++
    rule.actions.filterMap (·.tagLabel? tags rule.addsPlainTags idOf)

/-- The plan of a rule that is not unfit. -/
theorem Plan.ofRule_fit (tags : TagTable) {rule : Rule} (fit : ¬ rule.IsUnfit) :
    let plan := Plan.ofRule tags rule
    plan.obstacle = none ∧ plan.steps.filterMap Step.path? = rule.paths tags ∧
      (∀ idOf, plan.steps.filterMap (·.added? idOf) = rule.addedLabels tags idOf) ∧
      plan.steps.filterMap Step.removed? = rule.actions.filterMap Action.removed? ∧
      plan.steps.filterMap Step.recipient? = rule.actions.filterMap Action.recipient? := by
  rw [isUnfit_iff, not_not] at fit
  obtain ⟨obstacle, renders⟩ := Plan.ofActions_fit fit
  obtain ⟨paths, added, removed, recipients⟩ :=
    Plan.tagSteps_renders tags rule.addsPlainTags rule.actions
  simp only [List.any_nil] at obstacle renders
  simp only [Plan.ofRule, obstacle, List.filterMap_append]
  refine ⟨trivial, ?_, ?_, ?_, ?_⟩
  · rw [renders.paths, ← Rule.addsPlainTags, paths, Rule.paths]
  · intro idOf
    rw [renders.added, ← Rule.addsPlainTags, added, Rule.addedLabels]
  · rw [renders.removed, ← Rule.addsPlainTags, removed, List.append_nil]
  · rw [renders.recipients, ← Rule.addsPlainTags, recipients, List.append_nil]

theorem Plan.ofRule_unfit (tags : TagTable) {rule : Rule} (unfit : rule.IsUnfit) :
    ∃ obstacle, FirstOffence [] rule.actions obstacle ∧
      (Plan.ofRule tags rule).obstacle = some obstacle := by
  obtain ⟨obstacle, offence, stops⟩ := Plan.ofActions_unfit (isUnfit_iff.mp unfit)
  refine ⟨obstacle, offence, ?_⟩
  rw [List.any_nil] at stops
  rw [Plan.ofRule, stops]
  exact stops

/-! ## Carrying out -/

/-- The id that some labels have for a path, if they have one. -/
def idIn (labels : List Label) (path : String) : String :=
  (Directory.search path false labels).getD ""

/-- Every one of some paths has a label. -/
def AllFound (labels : List Label) (paths : List String) : Prop :=
  ∀ path ∈ paths, ∃ id, Directory.search path false labels = some id

/-- An effect with what steps do on top of it, if each path has an id. -/
def Effect.afterSteps (effect : Effect) (idOf : String → String) (steps : List Step) : Effect where
  addLabels := effect.addLabels ++ steps.filterMap (·.added? idOf)
  removeLabels := effect.removeLabels ++ steps.filterMap Step.removed?
  forward := recipientAfter effect.forward steps

/-- An effect with what one step does on top of it, if each path has an id. -/
def Effect.withStep (idOf : String → String) (effect : Effect) : Step → Effect
  | .file path => effect.adding (idOf path)
  | .add id => effect.adding id
  | .remove id => effect.removing id
  | .forward recipient => { effect with forward := some recipient }
  | .skip _ => effect

theorem Effect.afterSteps_nil (effect : Effect) (idOf : String → String) :
    effect.afterSteps idOf [] = effect := by
  simp [afterSteps, recipientAfter]

theorem Effect.afterSteps_cons (effect : Effect) (idOf : String → String) (step : Step)
    (rest : List Step) :
    effect.afterSteps idOf (step :: rest) = (effect.withStep idOf step).afterSteps idOf rest := by
  have once : ∀ (first second third : List String), first ++ (second ++ third) =
      first ++ second ++ third := fun _ _ _ => (List.append_assoc ..).symm
  cases step with
  | file path => exact congrArg (Effect.mk · _ _) (once effect.addLabels [idOf path] _)
  | add id => exact congrArg (Effect.mk · _ _) (once effect.addLabels [id] _)
  | remove id => exact congrArg (Effect.mk _ · _) (once effect.removeLabels [id] _)
  | forward recipient => rfl
  | skip action => rfl

/-- Steps are carried out with the ids that the directory has in the end. -/
theorem carryOut_finds (mode : Mode) (rule : Rule) (steps : List Step) (effect : Effect)
    (session : Session) :
    Works mode Failure.request session (carryOut mode rule effect steps session)
      fun result after =>
        AllFound (after.directory mode) (steps.filterMap Step.path?) ∧
          result = effect.afterSteps (idIn (after.directory mode)) steps := by
  induction steps generalizing effect session with
  | nil => exact .done ⟨by simp [AllFound], (effect.afterSteps_nil _).symm⟩
  | cons step rest ih =>
      simp only [Effect.afterSteps_cons]
      cases step with
      | file path =>
          rw [carryOut]
          refine (Directory.acquire_works mode path session).mapFailure.bind ?_
          rintro id middle ⟨labels, knows, found⟩
          refine (ih (effect.adding id) middle).withProgress.imp ?_
          rintro result after ⟨⟨others, rfl⟩, _, made, gains⟩
          -- what is found before the other steps is found behind them
          obtain ⟨created, grown, _⟩ := gains.grown
          have found' : Directory.search path false (after.directory mode) = some id := by
            rw [grown, Session.directory_of_known knows]
            exact Directory.search_extend found created
          refine ⟨List.forall_mem_cons.mpr ⟨⟨id, found'⟩, others⟩, ?_⟩
          rw [Effect.withStep, idIn, found']
          rfl
      | add id => exact ih (effect.adding id) session
      | remove id => exact ih (effect.removing id) session
      | forward recipient => exact ih { effect with forward := some recipient } session
      | skip action =>
          rw [carryOut]
          exact (noteLeftOut_works mode rule action session).bind fun _ middle _ => ih effect middle

/-! ## Effects -/

theorem firstOccurrences_filter (p : String → Bool) (values : List String) :
    firstOccurrences (values.filter p) = (firstOccurrences values).filter p := by
  induction values with
  | nil => rfl
  | cons value rest ih =>
      by_cases kept : p value = true
      · rw [List.filter_cons_of_pos kept, firstOccurrences, firstOccurrences, ih,
          List.filter_cons_of_pos kept, List.filter_filter, List.filter_filter]
        simp only [Bool.and_comm]
      · rw [List.filter_cons_of_neg kept, firstOccurrences, List.filter_cons_of_neg kept, ih,
          List.filter_filter]
        -- what is left out for being equal is not kept either
        refine List.filter_congr ?_
        intro other _
        by_cases same : other = value <;> simp_all

/-- Leaving out later occurrences is what the library means by it. -/
theorem firstOccurrences_eq_eraseDups (values : List String) :
    firstOccurrences values = values.eraseDups := by
  -- the library filters first and then goes on, so the induction is on the length
  induction size : values.length using Nat.strongRecOn generalizing values with
  | ind n ih =>
      cases values with
      | nil => rfl
      | cons value rest =>
          have shorter : (rest.filter (· != value)).length < n := by
            rw [← size]
            exact Nat.lt_succ_of_le (List.length_filter_le _ rest)
          rw [firstOccurrences, ← firstOccurrences_filter, ih _ shorter _ rfl, List.eraseDups_cons]
          rfl

/-- Steps leave an effect with the last of their recipients. -/
theorem recipientAfter_eq (earlier : Option String) (steps : List Step) :
    recipientAfter earlier steps = (steps.filterMap Step.recipient?).getLast?.or earlier := by
  induction steps generalizing earlier with
  | nil => rfl
  | cons step rest ih =>
      show recipientAfter (step.recipient?.or earlier) rest = _
      rw [ih]
      cases recipient : step.recipient? with
      | none => simp [List.filterMap_cons_none recipient]
      | some address =>
          rw [List.filterMap_cons_some recipient, List.getLast?_cons]
          cases (rest.filterMap Step.recipient?).getLast? <;> rfl

theorem getLast?_toList {recipients : List String} (short : recipients.length ≤ 1) :
    recipients.getLast?.toList = recipients := by
  cases recipients with
  | nil => rfl
  | cons recipient rest =>
      obtain rfl : rest = [] := List.length_eq_zero_iff.mp (by simpa using short)
      rfl

/-- The rules that are not unfit have one recipient at most. -/
theorem Rule.recipients_length {rule : Rule} (fit : ¬ rule.IsUnfit) :
    (rule.actions.filterMap Action.recipient?).length ≤ 1 := by
  have forwards : rule.actions.countP Action.isForward ≤ 1 := by
    rw [IsUnfit, not_or] at fit
    omega
  rw [List.length_filterMap_eq_countP]
  refine Nat.le_trans (Nat.le_of_eq (List.countP_congr ?_)) forwards
  intro action _
  cases action <;> simp [Action.recipient?, Action.isForward]

/-- The effect that the actions of a rule describe, if some labels are there: its labels to add and
to remove each at its first occurrence, and its recipient. -/
structure Rule.Describes (tags : TagTable) (labels : List Label) (rule : Rule) (effect : Effect) :
    Prop where
  found : AllFound labels (rule.paths tags)
  added : effect.addLabels = (rule.addedLabels tags (idIn labels)).eraseDups
  removed : effect.removeLabels = (rule.actions.filterMap Action.removed?).eraseDups
  forward : effect.forward.toList = rule.actions.filterMap Action.recipient?

section Outcomes

variable {rule : Rule} {session : Session} (mode : Mode) (tags : TagTable)

/-- Without faults a rule that is not unfit has the effect that its actions describe. -/
theorem Rule.effect_fit (serves : session.Serves) (fit : ¬ rule.IsUnfit) :
    Gives mode session (rule.effect mode tags session) fun effect after =>
      rule.Describes tags (after.directory mode) effect := by
  obtain ⟨obstacle, paths, added, removed, recipients⟩ := Plan.ofRule_fit tags fit
  refine Works.gives (?_ : Works mode Failure.request session _ _) serves
  rw [Rule.effect]
  refine (carryOut_finds mode rule (Plan.ofRule tags rule).steps {} session).bind ?_
  rintro effect after ⟨found, rfl⟩
  rw [paths] at found
  rw [obstacle]
  refine .done ⟨found, ?_, ?_, ?_⟩
  · simp only [Effect.tidy, Effect.afterSteps, firstOccurrences_eq_eraseDups, added,
      List.nil_append]
  · simp only [Effect.tidy, Effect.afterSteps, firstOccurrences_eq_eraseDups, removed,
      List.nil_append]
  · have short := Rule.recipients_length fit
    simp only [Effect.tidy, Effect.afterSteps, recipientAfter_eq, recipients, Option.or_none]
    exact getLast?_toList short

/-- An unfit rule is rejected for the first of its actions that offends. -/
theorem Rule.effect_unfit (serves : session.Serves) (unfit : rule.IsUnfit) :
    ∃ obstacle, FirstOffence [] rule.actions obstacle ∧
      (rule.effect mode tags session).1 = .error (.rejected ⟨obstacle, some rule⟩) := by
  obtain ⟨obstacle, offence, stops⟩ := Plan.ofRule_unfit tags unfit
  refine ⟨obstacle, offence, ?_⟩
  obtain ⟨effect, after, _, ran, _⟩ :=
    (carryOut_finds mode rule (Plan.ofRule tags rule).steps {} session).gives serves
  rw [Rule.effect, Task.bind_of_ok ran, stops]
  rfl

end Outcomes

/-! ## Where the tags stand -/

namespace Plan

/-- Tags have no part in the plan of the other actions. -/
theorem ofActions_others (forwarded : Bool) (actions : List Action) :
    ofActions forwarded (actions.filter (!·.isTag)) = ofActions forwarded actions := by
  induction actions generalizing forwarded with
  | nil => rfl
  | cons action rest ih =>
      cases action with
      | addTag tag => exact ih forwarded
      | forward recipient =>
          rw [List.filter_cons_of_pos rfl, ofActions, ofActions, ih]
      | junkScore score =>
          rw [List.filter_cons_of_pos rfl, ofActions, ofActions, ih]
      | _ => exact congrArg (after _) (ih forwarded)

/-- Other actions have no part in the steps of the tags. -/
theorem tagSteps_tags (tags : TagTable) (plainTags : Bool) (actions : List Action) :
    tagSteps tags plainTags (actions.filter (·.isTag)) = tagSteps tags plainTags actions := by
  rw [tagSteps_eq, tagSteps_eq, List.filterMap_filter]
  refine List.filterMap_congr ?_
  intro action _
  cases action <;> rfl

theorem anyFiling_others (actions : List Action) :
    (actions.filter (!·.isTag)).any isFiling = actions.any isFiling := by
  rw [List.any_filter]
  refine congrArg actions.any (funext ?_)
  intro action
  cases action <;> rfl

/-- The plan of a rule depends on its tags in their order and on its other actions in theirs. -/
theorem ofRule_arranged {tags : TagTable} {rule other : Rule}
    (sameTags : other.actions.filter (·.isTag) = rule.actions.filter (·.isTag))
    (sameOthers : other.actions.filter (!·.isTag) = rule.actions.filter (!·.isTag)) :
    ofRule tags other = ofRule tags rule := by
  have plans : ofActions false other.actions = ofActions false rule.actions := by
    rw [← ofActions_others, sameOthers, ofActions_others]
  have filing : other.actions.any isFiling = rule.actions.any isFiling := by
    rw [← anyFiling_others, sameOthers, anyFiling_others]
  have steps : ∀ plainTags, tagSteps tags plainTags other.actions =
      tagSteps tags plainTags rule.actions := by
    intro plainTags
    rw [← tagSteps_tags, sameTags, tagSteps_tags]
  rw [ofRule, ofRule, plans, filing, steps]

end Plan

/-- Only the name of the rule shows in what carrying out steps does. -/
theorem carryOut_named {mode : Mode} {rule other : Rule} (same : other.name = rule.name)
    (effect : Effect) (steps : List Step) :
    carryOut mode other effect steps = carryOut mode rule effect steps := by
  induction steps generalizing effect with
  | nil => rfl
  | cons step rest ih =>
      cases step with
      | file path => simp only [carryOut, ih]
      | skip action => simp only [carryOut, noteLeftOut, same, ih]
      | _ => exact ih _

/-- What two rules come to that differ only in where their tags stand among their other actions: the
same effect, or the same obstacle, and the same session. -/
structure SameOutcome (rule other : Rule)
    (first second : Except Failure Effect × Session) : Prop where
  session : second.2 = first.2
  made : ∀ effect, second.1 = .ok effect ↔ first.1 = .ok effect
  rejected : ∀ obstacle, second.1 = .error (.rejected ⟨obstacle, some other⟩) ↔
    first.1 = .error (.rejected ⟨obstacle, some rule⟩)

theorem Rule.effect_arranged {mode : Mode} {tags : TagTable} {rule other : Rule} {session : Session}
    (serves : session.Serves) (name : other.name = rule.name)
    (sameTags : other.actions.filter (·.isTag) = rule.actions.filter (·.isTag))
    (sameOthers : other.actions.filter (!·.isTag) = rule.actions.filter (!·.isTag)) :
    SameOutcome rule other (rule.effect mode tags session) (other.effect mode tags session) := by
  obtain ⟨effect, after, _, ran, _⟩ :=
    (carryOut_finds mode rule (Plan.ofRule tags rule).steps {} session).gives serves
  rw [Rule.effect, Rule.effect, Plan.ofRule_arranged sameTags sameOthers, carryOut_named name,
    Task.bind_of_ok ran, Task.bind_of_ok ran]
  cases (Plan.ofRule tags rule).obstacle with
  | none => exact ⟨rfl, fun _ => Iff.rfl, fun _ => by simp [pure, Task.done]⟩
  | some obstacle => exact ⟨rfl, by simp [Task.fail], by simp [Task.fail]⟩

/-- **Effects.** Without faults an unfit rule is rejected for the first of its actions that offends,
and any other rule has the effect that its actions describe, with the labels that the directory has
then; where the tags stand among the other actions makes no difference. -/
theorem Rule.effect_described (mode : Mode) (tags : TagTable) (rule : Rule) {session : Session}
    (serves : session.Serves) :
    (rule.IsUnfit → ∃ obstacle, FirstOffence [] rule.actions obstacle ∧
      (rule.effect mode tags session).1 = .error (.rejected ⟨obstacle, some rule⟩)) ∧
    (¬ rule.IsUnfit → ∃ effect after created,
      rule.effect mode tags session = (.ok effect, after) ∧
      after.directory mode = session.directory mode ++ created ∧
      rule.Describes tags (after.directory mode) effect) ∧
    ∀ other : Rule, other.name = rule.name →
      other.actions.filter (·.isTag) = rule.actions.filter (·.isTag) →
      other.actions.filter (!·.isTag) = rule.actions.filter (!·.isTag) →
      SameOutcome rule other (rule.effect mode tags session) (other.effect mode tags session) := by
  refine ⟨Rule.effect_unfit mode tags serves, ?_, ?_⟩
  · intro fit
    obtain ⟨effect, after, created, ran, _, grown, _, describes⟩ :=
      Rule.effect_fit mode tags serves fit
    exact ⟨effect, after, created, ran, grown, describes⟩
  · intro other name sameTags sameOthers
    exact Rule.effect_arranged serves name sameTags sameOthers

/-- A recipient whom rules forward mail to. -/
def colleague : Recipient := ⟨"b@c.de", by decide +kernel⟩

/-- A rule that moves messages keeps its important tag and drops the other one, wherever they
stand. -/
theorem Rule.effect_described_mover :
    let session : Session := { account := { labels := [⟨"Label_7", "work"⟩] } }
    let rule : Rule :=
      { name := "a"
        actions := [.addTag "$label2", .forward colleague, .addTag "$label1",
          .moveTo ⟨"h", none, "u", ["Work", "2024"]⟩, .junkScore 100] }
    session.Serves ∧ ¬ rule.IsUnfit ∧
      ∃ effect after created, rule.effect .real TagTable.initial session = (.ok effect, after) ∧
        after.directory .real = session.directory .real ++ created ∧
        rule.Describes TagTable.initial (after.directory .real) effect ∧
        effect = ⟨["new_1", "SPAM", "IMPORTANT"], ["INBOX"], some "b@c.de"⟩ := by
  intro session rule
  have serves : session.Serves := ⟨by simp [Silent, session], by simp [Silent, session]⟩
  have fit : ¬ rule.IsUnfit := by
    rw [Rule.IsUnfit, not_or]
    exact ⟨by decide, by simp [Action.IsOddScore, rule]⟩
  obtain ⟨effect, after, created, ran, grown, describes⟩ :=
    (Rule.effect_described .real TagTable.initial rule serves).2.1 fit
  have value : (rule.effect .real TagTable.initial session).1 =
      .ok ⟨["new_1", "SPAM", "IMPORTANT"], ["INBOX"], some "b@c.de"⟩ := by decide +kernel
  rw [ran, Except.ok.injEq] at value
  exact ⟨serves, fit, effect, after, created, ran, grown, describes, value⟩

end MailFilters
