import MailFilters.Filter.OfRule
import MailFilters.Filter.Submit
import MailFilters.Proofs.Account.Directory

/-!
# What making a filter does

* **`Rule.obstacle?`** — why a rule does not become a filter, whatever the account.
* **`Plan.ofRule_systemLabels`**, **`Plan.ofRule_recipient`** — the labels that a plan names by id
  are system labels, and it forwards to the recipient of the rule.
* **`Compiles`**, **`Rule.filter_compiles`** — making the filter of a rule asks for labels only; it
  gives the filter, meets the obstacle of the rule, or fails with its last request.
-/

namespace MailFilters

/-! ## Plans -/

/-- Why a rule does not become a filter: its criteria have no search, or its plan stops. -/
def Rule.obstacle? (rule : Rule) (tags : TagTable) : Option Obstacle :=
  match rule.query with
  | .error obstacle => some obstacle
  | .ok _ => (Plan.ofRule tags rule).obstacle

/-- The labels that a step names by id are system labels. -/
def Step.NamesSystemLabels : Step → Prop
  | .add id | .remove id => id ∈ SystemLabel.all
  | .file _ | .forward _ | .skip _ => True

/-- The recipient that a step forwards to. -/
def Step.recipient? : Step → Option String
  | .forward recipient => some recipient
  | .file _ | .add _ | .remove _ | .skip _ => none

/-- The recipient that steps leave an effect with that had one or none before. -/
def recipientAfter (earlier : Option String) (steps : List Step) : Option String :=
  steps.foldl (fun recipient step => step.recipient?.or recipient) earlier

namespace Plan

theorem tagSteps_systemLabels (tags : TagTable) (plainTags : Bool) (actions : List Action) :
    ∀ step ∈ tagSteps tags plainTags actions, step.NamesSystemLabels := by
  induction actions with
  | nil => simp [tagSteps]
  | cons action rest ih =>
      cases action with
      | addTag tag =>
          rw [tagSteps]
          have listed : SystemLabel.important ∈ SystemLabel.all := by decide
          split
          · exact List.forall_mem_cons.mpr ⟨listed, ih⟩
          · split
            · exact List.forall_mem_cons.mpr ⟨trivial, ih⟩
            · exact ih
      | _ => exact ih

theorem ofActions_systemLabels (forwarded : Bool) (actions : List Action) :
    ∀ step ∈ (ofActions forwarded actions).steps, step.NamesSystemLabels := by
  induction actions generalizing forwarded with
  | nil => simp [ofActions]
  | cons action rest ih =>
      cases action with
      | addTag tag => exact ih forwarded
      | copyTo folder => exact List.forall_mem_cons.mpr ⟨trivial, ih forwarded⟩
      | moveTo folder =>
          exact List.forall_mem_cons.mpr
            ⟨trivial, List.forall_mem_cons.mpr
              ⟨(by decide : SystemLabel.inbox ∈ SystemLabel.all), ih forwarded⟩⟩
      | delete =>
          exact List.forall_mem_cons.mpr
            ⟨(by decide : SystemLabel.trash ∈ SystemLabel.all), ih forwarded⟩
      | forward recipient =>
          rw [ofActions]
          split
          · simp
          · exact List.forall_mem_cons.mpr ⟨trivial, ih true⟩
      | junkScore score =>
          rw [ofActions]
          have listed : SystemLabel.spam ∈ SystemLabel.all := by decide
          split
          · exact List.forall_mem_cons.mpr ⟨listed, ih forwarded⟩
          · split
            · exact List.forall_mem_cons.mpr ⟨listed, ih forwarded⟩
            · simp
      | markRead =>
          exact List.forall_mem_cons.mpr
            ⟨(by decide : SystemLabel.unread ∈ SystemLabel.all), ih forwarded⟩
      | markFlagged => exact List.forall_mem_cons.mpr ⟨trivial, ih forwarded⟩
      | reply model => exact List.forall_mem_cons.mpr ⟨trivial, ih forwarded⟩
      | stopExecution => exact List.forall_mem_cons.mpr ⟨trivial, ih forwarded⟩

/-- The labels that a plan names by id are system labels. -/
theorem ofRule_systemLabels (tags : TagTable) (rule : Rule) :
    ∀ step ∈ (ofRule tags rule).steps, step.NamesSystemLabels := by
  rw [ofRule]
  cases (ofActions false rule.actions).obstacle with
  | some obstacle => exact ofActions_systemLabels false rule.actions
  | none =>
      exact List.forall_mem_append.mpr
        ⟨ofActions_systemLabels false rule.actions, tagSteps_systemLabels _ _ rule.actions⟩

theorem tagSteps_recipient (tags : TagTable) (plainTags : Bool) (actions : List Action)
    (earlier : Option String) :
    recipientAfter earlier (tagSteps tags plainTags actions) = earlier := by
  induction actions with
  | nil => rfl
  | cons action rest ih =>
      cases action with
      | addTag tag =>
          rw [tagSteps]
          split
          · exact ih
          · split <;> exact ih
      | _ => exact ih

/-- A plan without obstacle forwards once at most, and not again behind a forward. -/
theorem ofActions_recipient {forwarded : Bool} {actions : List Action}
    (fits : (ofActions forwarded actions).obstacle = none) (earlier : Option String) :
    (forwarded = true → actions.findSome? Action.recipient? = none) ∧
      recipientAfter earlier (ofActions forwarded actions).steps =
        (actions.findSome? Action.recipient?).or earlier := by
  induction actions generalizing forwarded earlier with
  | nil => simp [ofActions, recipientAfter]
  | cons action rest ih =>
      cases action with
      | forward recipient =>
          cases forwarded with
          | true => simp [ofActions] at fits
          | false =>
              obtain ⟨unique, later⟩ := @ih true fits (some recipient.address)
              refine ⟨by simp, ?_⟩
              rw [unique rfl] at later
              exact later
      | junkScore score =>
          rw [ofActions] at fits ⊢
          split at fits
          · next zero => rw [if_pos zero]; exact ih fits earlier
          · next other =>
              rw [if_neg other]
              split at fits
              · next full => rw [if_pos full]; exact ih fits earlier
              · simp at fits
      | _ => exact ih fits earlier

/-- A plan without obstacle forwards to the recipient of the rule. -/
theorem ofRule_recipient {tags : TagTable} {rule : Rule}
    (fits : (ofRule tags rule).obstacle = none) :
    recipientAfter none (ofRule tags rule).steps = rule.recipient? := by
  rw [ofRule] at fits ⊢
  cases obstacle : (ofActions false rule.actions).obstacle with
  | some _ =>
      rw [obstacle] at fits
      exact absurd (obstacle.symm.trans fits) (by simp)
  | none =>
      have actions := (ofActions_recipient obstacle none).2
      rw [Option.or_none] at actions
      show recipientAfter none (_ ++ _) = _
      rw [recipientAfter, List.foldl_append]
      exact (tagSteps_recipient _ _ _ _).trans actions

end Plan

/-! ## Effects -/

/-- The labels that an effect adds are system labels or known in a mode. -/
def Effect.Grounded (effect : Effect) (mode : Mode) (session : Session) : Prop :=
  ∀ id ∈ effect.addLabels,
    id ∈ SystemLabel.all ∨
      ∃ labels, session.known mode = some labels ∧ ∃ label ∈ labels, label.id = id

theorem Effect.Grounded.mono {effect : Effect} {mode : Mode} {before after : Session}
    (grounded : effect.Grounded mode before)
    (made : ∃ calls, Progress mode before after calls) : effect.Grounded mode after := by
  obtain ⟨calls, progress⟩ := made
  intro id member
  rcases grounded id member with system | ⟨labels, knows, label, inside, same⟩
  · exact .inl system
  · obtain ⟨added, knows'⟩ := (progress.settled labels knows).1
    exact .inr ⟨labels ++ added, knows', label, List.mem_append_left _ inside, same⟩

theorem mem_firstOccurrences {value : String} {values : List String} :
    value ∈ firstOccurrences values ↔ value ∈ values := by
  induction values with
  | nil => simp [firstOccurrences]
  | cons first rest ih =>
      rw [firstOccurrences, List.mem_cons, List.mem_filter, ih, List.mem_cons]
      by_cases same : value = first <;> simp [same]

/-- The note that an action is left out changes nothing but the log. -/
theorem noteLeftOut_works (mode : Mode) (rule : Rule) (action : Action) (session : Session) :
    Works mode Failure.request session (noteLeftOut rule action session)
      fun _ after => ∃ log, after = { session with log } :=
  ⟨[], [], [], .noted (by simp [Unmarked]) .info (), fun _ _ => ⟨_, rfl⟩⟩

/-- Carrying out steps asks for labels only.  The effect that it ends with adds system labels and
known ones, and forwards as the steps say. -/
theorem carryOut_works {mode : Mode} (rule : Rule) {steps : List Step}
    (system : ∀ step ∈ steps, step.NamesSystemLabels) (effect : Effect) {session : Session}
    (grounded : effect.Grounded mode session) :
    Works mode Failure.request session (carryOut mode rule effect steps session)
      fun result after =>
        result.Grounded mode after ∧ result.forward = recipientAfter effect.forward steps := by
  induction steps generalizing effect session with
  | nil => exact .done ⟨grounded, rfl⟩
  | cons step rest ih =>
      obtain ⟨named, later⟩ := List.forall_mem_cons.mp system
      cases step with
      | file path =>
          rw [carryOut]
          refine (Directory.acquire_works mode path session).mapFailure.withProgress.bind ?_
          rintro id after ⟨⟨labels, knows, found⟩, made, _⟩
          obtain ⟨label, member, same, _⟩ := Directory.search_some found
          refine ih later (effect.adding id) ?_
          -- labels that were known before the search are known behind it
          refine List.forall_mem_append.mpr ⟨grounded.mono made, ?_⟩
          intro other isNew
          rw [List.mem_singleton.mp isNew]
          exact .inr ⟨labels, knows, label, member, same⟩
      | add id =>
          refine ih later (effect.adding id) ?_
          refine List.forall_mem_append.mpr ⟨grounded, ?_⟩
          intro other isNew
          rw [List.mem_singleton.mp isNew]
          exact .inl named
      | remove id => exact ih later (effect.removing id) grounded
      | forward recipient =>
          exact ih later { effect with forward := some recipient } grounded
      | skip action =>
          rw [carryOut]
          refine (noteLeftOut_works mode rule action session).bind ?_
          rintro _ _ ⟨log, rfl⟩
          exact ih later effect grounded

/-! ## Filters -/

section Equations

variable {mode : Mode} {tags : TagTable} {rule : Rule} {session after : Session} {query : String}

theorem Rule.filter_unsearched {obstacle : Obstacle} (searched : rule.query = .error obstacle) :
    rule.filter mode tags session =
      (.error (.rejected ⟨obstacle, some rule⟩), session) := by
  rw [Rule.filter, searched]
  rfl

theorem Rule.filter_stopped {failure : Failure} (searched : rule.query = .ok query)
    (stopped : rule.effect mode tags session = (.error failure, after)) :
    rule.filter mode tags session = (.error failure, after) := by
  rw [Rule.filter, searched]
  exact Task.bind_of_error stopped

theorem Rule.filter_acted {effect : Effect} (searched : rule.query = .ok query)
    (acted : rule.effect mode tags session = (.ok effect, after)) :
    rule.filter mode tags session =
      (.ok ⟨rule, ⟨query, effect⟩⟩,
        { after with
          log := after.log ++
            [⟨.debug, "Rule '" ++ rule.name ++ "' compiled to query: " ++ query⟩] }) := by
  rw [Rule.filter, searched]
  exact (Task.bind_of_ok acted).trans rfl

theorem Rule.filter_refused {failure : Failure} (searched : rule.query = .ok query)
    (ran : carryOut mode rule {} (Plan.ofRule tags rule).steps session = (.error failure, after)) :
    rule.filter mode tags session = (.error failure, after) :=
  Rule.filter_stopped searched (Task.bind_of_error ran)

theorem Rule.filter_obstructed {effect : Effect} {obstacle : Obstacle}
    (searched : rule.query = .ok query)
    (ran : carryOut mode rule {} (Plan.ofRule tags rule).steps session = (.ok effect, after))
    (obstructed : (Plan.ofRule tags rule).obstacle = some obstacle) :
    rule.filter mode tags session = (.error (.rejected ⟨obstacle, some rule⟩), after) := by
  refine Rule.filter_stopped searched ?_
  rw [Rule.effect, Task.bind_of_ok ran, obstructed]
  rfl

theorem Rule.filter_made {effect : Effect} (searched : rule.query = .ok query)
    (ran : carryOut mode rule {} (Plan.ofRule tags rule).steps session = (.ok effect, after))
    (clear : (Plan.ofRule tags rule).obstacle = none) :
    rule.filter mode tags session =
      (.ok ⟨rule, ⟨query, effect.tidy⟩⟩,
        { after with
          log := after.log ++
            [⟨.debug, "Rule '" ++ rule.name ++ "' compiled to query: " ++ query⟩] }) := by
  refine Rule.filter_acted searched ?_
  rw [Rule.effect, Task.bind_of_ok ran, clear]
  rfl

end Equations

/-- How making the filter of a rule ends, with the requests that it makes to an account. -/
inductive Compiles (mode : Mode) (tags : TagTable) (rule : Rule) (account : Account)
    (calls : List Call) (after : Session) : Except Failure RuleFilter → Prop
  /-- The rule has no obstacle, and becomes a filter. -/
  | made {filter : Filter} : rule.obstacle? tags = none → account.Grants calls →
      rule.query = .ok filter.query → filter.effect.forward = rule.recipient? →
      filter.effect.Grounded mode after →
      Compiles mode tags rule account calls after (.ok ⟨rule, filter⟩)
  /-- The rule has an obstacle. -/
  | unfit {obstacle : Obstacle} : rule.obstacle? tags = some obstacle → account.Grants calls →
      Compiles mode tags rule account calls after (.error (.rejected ⟨obstacle, some rule⟩))
  /-- A request for labels fails. -/
  | failed {fault : Fault} : account.Refuses calls fault →
      Compiles mode tags rule account calls after (.error (.request fault))

/-- **Making a filter.** It asks for labels only; it gives the filter of the rule, meets the
obstacle of the rule, or fails with its last request. -/
theorem Rule.filter_compiles (mode : Mode) (tags : TagTable) (rule : Rule) (session : Session) :
    ∃ calls, Progress mode session (rule.filter mode tags session).2 calls ∧
      (∀ call ∈ calls, call.IsForLabels) ∧
      Compiles mode tags rule session.account calls (rule.filter mode tags session).2
        (rule.filter mode tags session).1 := by
  cases searched : rule.query with
  | error obstacle =>
      have unfit : rule.obstacle? tags = some obstacle := by rw [Rule.obstacle?, searched]
      rw [Rule.filter_unsearched searched]
      exact ⟨[], .refl session, by simp, .unfit unfit trivial⟩
  | ok query =>
      have planned : rule.obstacle? tags = (Plan.ofRule tags rule).obstacle := by
        rw [Rule.obstacle?, searched]
      have nothing : Effect.Grounded {} mode session := by
        intro id member
        simp at member
      obtain ⟨_, calls, _, did, leaves⟩ :=
        carryOut_works rule (Plan.ofRule_systemLabels tags rule) {} nothing
      refine ⟨calls, ?_⟩
      cases ran : carryOut mode rule {} (Plan.ofRule tags rule).steps session with
      | mk outcome after =>
          rw [ran] at did leaves
          cases outcome with
          | error failure =>
              obtain ⟨fault, rfl, refused⟩ := did.answers
              rw [Rule.filter_refused searched ran]
              exact ⟨did.progress, did.forLabels, .failed refused⟩
          | ok effect =>
              obtain ⟨grounded, forwards⟩ := leaves effect rfl
              cases obstacle : (Plan.ofRule tags rule).obstacle with
              | some reason =>
                  rw [Rule.filter_obstructed searched ran obstacle]
                  exact ⟨did.progress, did.forLabels, .unfit (planned.trans obstacle) did.answers⟩
              | none =>
                  rw [Rule.filter_made searched ran obstacle]
                  refine ⟨did.progress.noted _ _, did.forLabels,
                    .made (planned.trans obstacle) did.answers searched ?_ ?_⟩
                  · exact forwards.trans (Plan.ofRule_recipient obstacle)
                  · intro id member
                    exact grounded id (mem_firstOccurrences.mp member)

/-! ## Filters of several rules -/

/-- An activity whose value is changed in the end. -/
theorem Task.bind_pure_run (task : Task ε α) (f : α → β) (session : Session) :
    (task >>= fun value => pure (f value)) session = (task session).map (Except.map f) id := by
  cases ran : task session with
  | mk outcome after =>
      cases outcome with
      | ok value => exact (Task.bind_of_ok ran).trans rfl
      | error cause => exact Task.bind_of_error ran

/-- A changed outcome is a value if the outcome is one. -/
theorem Task.map_eq_ok_iff {f : α → β} {run : Except ε α × Session} {result : β}
    {after : Session} :
    run.map (Except.map f) id = (.ok result, after) ↔
      ∃ value, run = (.ok value, after) ∧ f value = result := by
  obtain ⟨outcome, last⟩ := run
  cases outcome with
  | error cause => simp [Except.map]
  | ok value =>
      constructor
      · intro same
        obtain ⟨changed, rfl⟩ := Prod.mk.inj same
        exact ⟨value, rfl, Except.ok.inj changed⟩
      · intro made
        obtain ⟨_, same, rfl⟩ := made
        obtain ⟨given, rfl⟩ := Prod.mk.inj same
        rw [← Except.ok.inj given]
        rfl

section FiltersOf

variable {mode : Mode} {tags : TagTable} {rule : Rule} {rest : List Rule}
  {session after : Session}

theorem filtersOf_made {made : RuleFilter}
    (ran : rule.filter mode tags session = (.ok made, after)) :
    filtersOf mode tags (rule :: rest) session =
      (filtersOf mode tags rest after).map
        (Except.map fun result => (made :: result.1, result.2)) id := by
  rw [filtersOf, Task.conclude_of_run ran]
  exact Task.bind_pure_run (filtersOf mode tags rest) _ after

theorem filtersOf_rejected {rejection : Rejection}
    (ran : rule.filter mode tags session = (.error (.rejected rejection), after)) :
    filtersOf mode tags (rule :: rest) session =
      (filtersOf mode tags rest (after.noted rule rejection)).map
        (Except.map fun result => (result.1, rejection :: result.2)) id := by
  rw [filtersOf, Task.conclude_of_run ran]
  exact Task.bind_pure_run (filtersOf mode tags rest) _ (after.noted rule rejection)

theorem filtersOf_failed {failure : Failure}
    (ran : rule.filter mode tags session = (.error failure, after))
    (unfit : ∀ rejection, failure ≠ .rejected rejection) :
    filtersOf mode tags (rule :: rest) session = (.error failure, after) := by
  rw [filtersOf, Task.conclude_of_run ran]
  cases failure with
  | rejected rejection => exact absurd rfl (unfit rejection)
  | request fault => rfl
  | invalid cause => rfl

end FiltersOf

end MailFilters
