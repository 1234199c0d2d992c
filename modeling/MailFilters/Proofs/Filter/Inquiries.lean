import MailFilters.Proofs.Filter.Verdict

/-!
# What a rule asks a directory for

Labels that were created for a rule stay when the rule is set aside, so it matters which paths a
directory is asked for, and in which order.

* **`Watched`** — activities whose inquiries to a directory are watched.
* **`Rule.watchedFilter`** — making the filter of a rule, with any directory; with a label directory
  it does what `Rule.filter` does (`watchedFilter_snd`).
* **`Rule.Asks`** — the paths that a rule asks for as long as it gets answers, told from its actions.
* **`Follows`**, **`Rule.Inquires`** — inquiries go along some paths, stop at the first one that
  fails, and what comes of them.
* **`Rule.filter_inquiries`** — the inquiries of a rule go along these paths, and a rule that is set
  aside creates labels for its folders only.
-/

namespace MailFilters

open MailFilters.Action (Offends)

/-! ## Watched activities -/

/-- A path that a directory was asked for, and what it answered. -/
structure Inquiry where
  path : String
  answer : Except Fault String

/-- An activity in a session, together with the inquiries to a directory that belong to it. -/
def Watched (ε α : Type) : Type := Session → List Inquiry × Except ε α × Session

namespace Watched

/-- An activity without inquiries. -/
def aside (task : Task ε α) : Watched ε α := fun session => ([], task session)

/-- One activity and then another one, unless the first one fails. -/
def andThen (first : Watched ε α) (next : α → Watched ε β) : Watched ε β := fun session =>
  match first session with
  | (inquiries, .error cause, session) => (inquiries, .error cause, session)
  | (inquiries, .ok value, session) =>
    let (more, outcome) := next value session
    (inquiries ++ more, outcome)

instance : Monad (Watched ε) where
  pure value := aside (pure value)
  bind := andThen

/-- An inquiry to a directory, which may be any activity that answers a path. -/
def ask (directory : String → Task Fault String) (path : String) : Watched Failure String :=
  fun session =>
    ([⟨path, (directory path session).1⟩], (directory path).mapFailure .request session)

theorem ask_answered {directory : String → Task Fault String} {path id : String}
    {before after : Session} (answered : directory path before = (.ok id, after)) :
    ask directory path before = ([⟨path, .ok id⟩], .ok id, after) := by
  rw [ask, Task.mapFailure_eq_ok_iff.mpr answered, answered]

theorem ask_failed {directory : String → Task Fault String} {path : String} {fault : Fault}
    {before after : Session} (failed : directory path before = (.error fault, after)) :
    ask directory path before = ([⟨path, .error fault⟩], .error (.request fault), after) := by
  rw [ask, Task.mapFailure_of_error failed, failed]

section Equations

variable {first : Watched ε α} {next : α → Watched ε β} {before after : Session}
  {inquiries : List Inquiry}

theorem bind_of_ok {value : α} (ran : first before = (inquiries, .ok value, after)) :
    (first >>= next) before =
      (inquiries ++ (next value after).1, (next value after).2) := by
  simp [bind, andThen, ran]

theorem bind_of_error {cause : ε} (ran : first before = (inquiries, .error cause, after)) :
    (first >>= next) before = (inquiries, .error cause, after) := by
  simp [bind, andThen, ran]

/-- Unwatched, one activity behind another one is the one behind the other. -/
theorem bind_snd {task : Task ε α} {more : α → Task ε β}
    (front : ∀ session, (first session).2 = task session)
    (back : ∀ value session, (next value session).2 = more value session) (before : Session) :
    ((first >>= next) before).2 = (task >>= more) before := by
  have same := front before
  cases ran : first before with
  | mk inquiries result =>
      rw [ran] at same
      obtain ⟨outcome, after⟩ := result
      cases outcome with
      | error cause => rw [bind_of_error ran, Task.bind_of_error same.symm]
      | ok value => rw [bind_of_ok ran, Task.bind_of_ok same.symm, back]

end Equations

end Watched

/-! ## Watched rules -/

section Programs

variable (directory : String → Task Fault String)

/-- Carrying out steps, watched. -/
def watchedCarryOut (rule : Rule) (effect : Effect) : List Step → Watched Failure Effect
  | [] => pure effect
  | .file path :: rest => do
    let id ← Watched.ask directory path
    watchedCarryOut rule (effect.adding id) rest
  | .add id :: rest => watchedCarryOut rule (effect.adding id) rest
  | .remove id :: rest => watchedCarryOut rule (effect.removing id) rest
  | .forward recipient :: rest =>
    watchedCarryOut rule { effect with forward := some recipient } rest
  | .skip action :: rest => do
    Watched.aside (noteLeftOut rule action)
    watchedCarryOut rule effect rest

/-- Finding out what the filter of a rule does, watched. -/
def Rule.watchedEffect (rule : Rule) (tags : TagTable) : Watched Failure Effect := do
  let plan := Plan.ofRule tags rule
  let effect ← watchedCarryOut directory rule {} plan.steps
  match plan.obstacle with
  | some obstacle => Watched.aside (Task.fail (.rejected ⟨obstacle, some rule⟩))
  | none => return effect.tidy

/-- Making the filter of a rule, watched. -/
def Rule.watchedFilter (rule : Rule) (tags : TagTable) : Watched Failure RuleFilter :=
  match rule.query with
  | .error obstacle => Watched.aside (Task.fail (.rejected ⟨obstacle, some rule⟩))
  | .ok query => do
    let effect ← rule.watchedEffect directory tags
    Watched.aside
      (Task.note .debug ("Rule '" ++ rule.name ++ "' compiled to query: " ++ query))
    return ⟨rule, ⟨query, effect⟩⟩

end Programs

/-- The label directory of a mode. -/
def labelDirectory (mode : Mode) (path : String) : Task Fault String :=
  Directory.acquire mode path false

/-- Watching does not change what carrying out steps does. -/
theorem watchedCarryOut_snd (mode : Mode) (rule : Rule) (effect : Effect) (steps : List Step)
    (session : Session) :
    (watchedCarryOut (labelDirectory mode) rule effect steps session).2 =
      carryOut mode rule effect steps session := by
  induction steps generalizing effect session with
  | nil => rfl
  | cons step rest ih =>
      cases step with
      | file path =>
          rw [watchedCarryOut, carryOut]
          exact Watched.bind_snd (fun _ => rfl) (fun id after => ih (effect.adding id) after) session
      | add id => exact ih (effect.adding id) session
      | remove id => exact ih (effect.removing id) session
      | forward recipient => exact ih { effect with forward := some recipient } session
      | skip action =>
          rw [watchedCarryOut, carryOut]
          exact Watched.bind_snd (fun _ => rfl) (fun _ after => ih effect after) session

/-- Watching does not change what making the filter of a rule does. -/
theorem Rule.watchedFilter_snd (mode : Mode) (tags : TagTable) (rule : Rule) (session : Session) :
    (rule.watchedFilter (labelDirectory mode) tags session).2 = rule.filter mode tags session := by
  rw [Rule.watchedFilter, Rule.filter]
  cases rule.query with
  | error obstacle => rfl
  | ok query =>
      refine Watched.bind_snd ?_ (fun _ _ => rfl) session
      intro before
      rw [Rule.watchedEffect, Rule.effect]
      refine Watched.bind_snd (watchedCarryOut_snd mode rule {} _) ?_ before
      intro effect middle
      cases (Plan.ofRule tags rule).obstacle <;> rfl

/-! ## Inquiries -/

/-- How inquiries go along some paths: each of them is answered, or the last inquiry is the first
one that fails. -/
inductive Follows : List String → List Inquiry → Option Fault → Prop
  | done : Follows [] [] none
  | answered {path id : String} {paths : List String} {inquiries : List Inquiry}
      {fault? : Option Fault} : Follows paths inquiries fault? →
      Follows (path :: paths) (⟨path, .ok id⟩ :: inquiries) fault?
  | failed {path : String} {paths : List String} {fault : Fault} :
      Follows (path :: paths) [⟨path, .error fault⟩] (some fault)

/-- A watched activity for a rule asks for some paths in order.  It fails with the first inquiry that
fails; if none does, it is stopped by an obstacle or succeeds without one. -/
inductive Rule.Inquires (rule : Rule) (paths : List String) (obstacle? : Option Obstacle) :
    List Inquiry × Except Failure α × Session → Prop
  | failed {inquiries : List Inquiry} {fault : Fault} {after : Session} :
      Follows paths inquiries (some fault) →
      Inquires rule paths obstacle? (inquiries, .error (.request fault), after)
  | rejected {inquiries : List Inquiry} {obstacle : Obstacle} {after : Session} :
      Follows paths inquiries none → obstacle? = some obstacle →
      Inquires rule paths obstacle? (inquiries, .error (.rejected ⟨obstacle, some rule⟩), after)
  | made {inquiries : List Inquiry} {value : α} {after : Session} :
      Follows paths inquiries none → obstacle? = none →
      Inquires rule paths obstacle? (inquiries, .ok value, after)

/-- Behind the inquiries of an activity comes one without inquiries. -/
theorem Rule.Inquires.bind {rule : Rule} {paths : List String} {obstacle? later? : Option Obstacle}
    {first : Watched Failure α} {next : α → Watched Failure β} {before : Session}
    (front : rule.Inquires paths obstacle? (first before))
    (back : ∀ value session, rule.Inquires [] later? (next value session)) :
    rule.Inquires paths (obstacle?.or later?) ((first >>= next) before) := by
  cases ran : first before with
  | mk inquiries result =>
      rw [ran] at front
      cases front with
      | failed follows =>
          rw [Watched.bind_of_error ran]
          exact .failed follows
      | rejected follows stops =>
          rw [Watched.bind_of_error ran]
          exact .rejected follows (by rw [stops, Option.some_or])
      | @made _ value after follows clear =>
          rw [Watched.bind_of_ok ran, clear, Option.none_or]
          have last := back value after
          generalize next value after = run at last
          rw [← List.append_nil inquiries] at follows
          -- no path is left, so nothing is asked for and nothing fails
          cases last with
          | failed none => cases none
          | rejected none stops =>
              cases none
              exact .rejected follows stops
          | made none clear =>
              cases none
              exact .made follows clear

/-- Carrying out steps asks for their paths in order, and meets no obstacle. -/
theorem watchedCarryOut_inquires (directory : String → Task Fault String) (rule : Rule)
    (effect : Effect) (steps : List Step) (session : Session) :
    rule.Inquires (steps.filterMap Step.path?) none
      (watchedCarryOut directory rule effect steps session) := by
  induction steps generalizing effect session with
  | nil => exact .made .done rfl
  | cons step rest ih =>
      cases step with
      | file path =>
          show rule.Inquires (path :: rest.filterMap Step.path?) none _
          rw [watchedCarryOut]
          cases answer : directory path session with
          | mk outcome middle =>
              cases outcome with
              | error fault =>
                  rw [Watched.bind_of_error (Watched.ask_failed answer)]
                  exact .failed .failed
              | ok id =>
                  rw [Watched.bind_of_ok (Watched.ask_answered answer)]
                  have later := ih (effect.adding id) middle
                  generalize watchedCarryOut directory rule (effect.adding id) rest middle = run
                    at later
                  cases later with
                  | failed follows => exact .failed (.answered follows)
                  | rejected _ stops => simp at stops
                  | made follows _ => exact .made (.answered follows) rfl
      | add id => exact ih (effect.adding id) session
      | remove id => exact ih (effect.removing id) session
      | forward recipient => exact ih { effect with forward := some recipient } session
      | skip action =>
          rw [watchedCarryOut, Watched.bind_of_ok rfl]
          exact ih effect _

/-! ## The paths of a rule -/

/-- The plan of actions stops at one that offends, behind the folders of those before it. -/
theorem Plan.ofActions_stopped {seen before later : List Action} {action : Action}
    {obstacle : Obstacle} (clear : Unoffending seen before)
    (offends : Offends (seen ++ before) action obstacle) :
    let plan := ofActions (seen.any Action.isForward) (before ++ action :: later)
    plan.obstacle = some obstacle ∧
      plan.steps.filterMap Step.path? = before.filterMap Action.folderPath? := by
  induction before generalizing seen with
  | nil =>
      rw [List.append_nil] at offends
      rcases ofActions_cons seen action later with ⟨other, again, plan⟩ | ⟨none, _⟩
      · rw [offends.unique again, List.nil_append, plan]
        exact ⟨rfl, rfl⟩
      · exact absurd offends (none obstacle)
  | cons first before ih =>
      obtain ⟨here, behind⟩ := unoffending_cons.mp clear
      rcases ofActions_cons seen first (before ++ action :: later) with
        ⟨other, again, _⟩ | ⟨_, steps, renders, plan⟩
      · exact absurd again (here other)
      · rw [List.append_cons] at offends
        obtain ⟨stops, paths⟩ := ih behind offends
        rw [List.cons_append, plan]
        refine ⟨stops, ?_⟩
        show (steps ++ _).filterMap Step.path? = _
        rw [List.filterMap_append, renders.paths, paths, ← List.filterMap_append]
        rfl

/-- The paths that a rule asks a directory for as long as it gets answers, and the obstacle that it
then meets, if there is one. -/
inductive Rule.Asks (rule : Rule) (tags : TagTable) : List String → Option Obstacle → Prop
  /-- Without a search there are none. -/
  | unsearched {obstacle : Obstacle} : rule.query = .error obstacle → Asks rule tags [] (some obstacle)
  /-- They are those of the folders before the first action that offends. -/
  | stopped {query : String} {before later : List Action} {action : Action}
      {obstacle : Obstacle} : rule.query = .ok query → rule.actions = before ++ action :: later →
      Unoffending [] before → Offends before action obstacle →
      Asks rule tags (before.filterMap Action.folderPath?) (some obstacle)
  /-- If no action offends, they are those of all folders, or of the tags if there is none. -/
  | complete {query : String} : rule.query = .ok query → Unoffending [] rule.actions →
      Asks rule tags (rule.paths tags) none

theorem Rule.exists_asks (rule : Rule) (tags : TagTable) :
    ∃ paths obstacle?, rule.Asks tags paths obstacle? := by
  cases searched : rule.query with
  | error obstacle => exact ⟨[], some obstacle, .unsearched searched⟩
  | ok query =>
      by_cases clear : Unoffending [] rule.actions
      · exact ⟨rule.paths tags, none, .complete searched clear⟩
      · obtain ⟨obstacle, ⟨before, action, later, split, unoffending, offends⟩, _⟩ :=
          Plan.ofActions_unfit clear
        exact ⟨_, some obstacle, .stopped searched split unoffending offends⟩

/-- The paths that a rule asks for are those of its plan. -/
theorem Rule.Asks.plan {rule : Rule} {tags : TagTable} {paths : List String}
    {obstacle? : Option Obstacle} {query : String} (asks : rule.Asks tags paths obstacle?)
    (searched : rule.query = .ok query) :
    (Plan.ofRule tags rule).obstacle = obstacle? ∧
      (Plan.ofRule tags rule).steps.filterMap Step.path? = paths := by
  cases asks with
  | unsearched failed => simp [failed] at searched
  | @stopped _ before later action obstacle _ split clear offends =>
      obtain ⟨stops, paths⟩ := @Plan.ofActions_stopped [] before later action obstacle clear offends
      rw [List.any_nil, ← split] at stops paths
      rw [Plan.ofRule, stops]
      exact ⟨stops, paths⟩
  | complete _ clear =>
      have fit : ¬ rule.IsUnfit := fun unfit => isUnfit_iff.mp unfit clear
      obtain ⟨none, paths, _⟩ := Plan.ofRule_fit tags fit
      exact ⟨none, paths⟩

/-- The inquiries of a rule go along the paths that it asks for, whatever the directory. -/
theorem Rule.Asks.inquires {rule : Rule} {tags : TagTable} {paths : List String}
    {obstacle? : Option Obstacle} (asks : rule.Asks tags paths obstacle?)
    (directory : String → Task Fault String) (session : Session) :
    rule.Inquires paths obstacle? (rule.watchedFilter directory tags session) := by
  rw [Rule.watchedFilter]
  cases searched : rule.query with
  | error obstacle =>
      cases asks with
      | unsearched failed =>
          obtain rfl := Except.error.inj (searched.symm.trans failed)
          exact .rejected .done rfl
      | stopped made _ _ _ => simp [made] at searched
      | complete made _ => simp [made] at searched
  | ok query =>
      obtain ⟨stops, planned⟩ := asks.plan searched
      have acted : rule.Inquires paths (none.or obstacle?)
          (rule.watchedEffect directory tags session) := by
        rw [← planned]
        refine (watchedCarryOut_inquires directory rule {} _ session).bind ?_
        intro effect middle
        rw [stops]
        cases obstacle? with
        | none => exact .made .done rfl
        | some obstacle => exact .rejected .done rfl
      rw [Option.none_or] at acted
      rw [← @Option.or_none _ obstacle?]
      exact acted.bind fun _ _ => .made .done rfl

/-! ## The labels that are created -/

/-- Carrying out steps creates levels of their paths only, whatever requests fail. -/
theorem carryOut_gains (mode : Mode) (rule : Rule) (effect : Effect) (steps : List Step)
    (session : Session) :
    ∃ made, Gains mode session (carryOut mode rule effect steps session).2 made ∧
      ∀ name ∈ made, ∃ path ∈ steps.filterMap Step.path?, name ∈ Directory.levels path := by
  induction steps generalizing effect session with
  | nil => exact ⟨[], .refl session, by simp⟩
  | cons step rest ih =>
      cases step with
      | file path =>
          show ∃ made, _ ∧ ∀ name ∈ made, ∃ other ∈ path :: rest.filterMap Step.path?, _
          obtain ⟨_, created, did, _⟩ := Directory.acquire_makes mode path false session
          have gains := did.gains
          have levels : ∀ name ∈ created, name ∈ Directory.levels path := by
            intro name member
            exact (Directory.of_mem_missing (did.part.subset member)).1
          rw [carryOut]
          cases answer : Directory.acquire mode path false session with
          | mk outcome middle =>
              rw [answer] at gains
              cases outcome with
              | error fault =>
                  rw [Task.bind_of_error (Task.mapFailure_of_error answer)]
                  exact ⟨created, gains, fun name member =>
                    ⟨path, List.mem_cons_self, levels name member⟩⟩
              | ok id =>
                  rw [Task.bind_of_ok (Task.mapFailure_eq_ok_iff.mpr answer)]
                  obtain ⟨more, gains', inside⟩ := ih (effect.adding id) middle
                  refine ⟨created ++ more, gains.trans gains', List.forall_mem_append.mpr ⟨?_, ?_⟩⟩
                  · intro name member
                    exact ⟨path, List.mem_cons_self, levels name member⟩
                  · intro name member
                    obtain ⟨other, listed, level⟩ := inside name member
                    exact ⟨other, List.mem_cons_of_mem _ listed, level⟩
      | add id => exact ih (effect.adding id) session
      | remove id => exact ih (effect.removing id) session
      | forward recipient => exact ih { effect with forward := some recipient } session
      | skip action =>
          -- the note that an action is left out changes nothing but the log
          let noted := (noteLeftOut rule action session : Except Failure Unit × Session).2
          have idle : Gains mode session noted [] := .noted (by simp [Unmarked]) .info session
          obtain ⟨made, gains, inside⟩ := ih effect noted
          exact ⟨made, idle.trans gains, inside⟩

/-- Making the filter of a rule creates levels only of the paths that the rule asks for. -/
theorem Rule.Asks.gains {rule : Rule} {tags : TagTable} {paths : List String}
    {obstacle? : Option Obstacle} (asks : rule.Asks tags paths obstacle?) (mode : Mode)
    (session : Session) :
    ∃ made, Gains mode session (rule.filter mode tags session).2 made ∧
      ∀ name ∈ made, ∃ path ∈ paths, name ∈ Directory.levels path := by
  cases searched : rule.query with
  | error obstacle =>
      rw [Rule.filter_unsearched searched]
      exact ⟨[], .refl session, by simp⟩
  | ok query =>
      obtain ⟨stops, planned⟩ := asks.plan searched
      have carried := carryOut_gains mode rule {} (Plan.ofRule tags rule).steps session
      rw [planned] at carried
      cases ran : carryOut mode rule {} (Plan.ofRule tags rule).steps session with
      | mk outcome after =>
          rw [ran] at carried
          cases outcome with
          | error failure =>
              rw [Rule.filter_refused searched ran]
              exact carried
          | ok effect =>
              cases obstacle? with
              | some obstacle =>
                  rw [Rule.filter_obstructed searched ran stops]
                  exact carried
              | none =>
                  obtain ⟨made, gains, inside⟩ := carried
                  rw [Rule.filter_made searched ran stops]
                  refine ⟨made, ?_, inside⟩
                  rw [← List.append_nil made]
                  exact gains.trans (.noted (by simp [Unmarked]) .debug after)

/-- The paths that a rule with an obstacle asks for are those of folders. -/
theorem Rule.Asks.folders {rule : Rule} {tags : TagTable} {paths : List String}
    {obstacle : Obstacle} (asks : rule.Asks tags paths (some obstacle)) :
    ∀ path ∈ paths, ∃ action ∈ rule.actions, action.folderPath? = some path := by
  cases asks with
  | unsearched _ => simp
  | stopped _ split _ _ =>
      intro path member
      obtain ⟨action, inside, files⟩ := List.mem_filterMap.mp member
      exact ⟨action, split ▸ List.mem_append_left _ inside, files⟩

/-- **Inquiries.** Whatever the directory, the inquiries of a rule go along the paths that it asks
for: none without a search, those of its folders before the first action that offends, or those of
all its folders, or of its tags if it has none; they stop at an inquiry that fails, and its fault is
told.  With a label directory a rule without a search changes nothing, and a rule that is set aside
creates levels of the paths of its folders only. -/
theorem Rule.filter_inquiries (tags : TagTable) (rule : Rule) (session : Session) :
    (∃ paths obstacle?, rule.Asks tags paths obstacle?) ∧
    (∀ paths obstacle?, rule.Asks tags paths obstacle? →
      ∀ directory : String → Task Fault String,
        rule.Inquires paths obstacle? (rule.watchedFilter directory tags session)) ∧
    ∀ mode,
      (rule.watchedFilter (labelDirectory mode) tags session).2 = rule.filter mode tags session ∧
      (∀ obstacle, rule.query = .error obstacle → (rule.filter mode tags session).2 = session) ∧
      ∀ rejection after, rule.filter mode tags session = (.error (.rejected rejection), after) →
        ∃ made, after.names mode = session.names mode ++ made ∧
          ∀ name ∈ made, ∃ action ∈ rule.actions, ∃ path, action.folderPath? = some path ∧
            name ∈ Directory.levels path := by
  obtain ⟨paths, obstacle?, asks⟩ := rule.exists_asks tags
  refine ⟨⟨paths, obstacle?, asks⟩, fun _ _ asks directory => asks.inquires directory session, ?_⟩
  intro mode
  refine ⟨rule.watchedFilter_snd mode tags session, ?_, ?_⟩
  · intro obstacle searched
    rw [Rule.filter_unsearched searched]
  · intro rejection after ran
    have same := rule.watchedFilter_snd mode tags session
    have inquires := asks.inquires (labelDirectory mode) session
    generalize rule.watchedFilter (labelDirectory mode) tags session = run at same inquires
    obtain ⟨made, gains, levels⟩ := asks.gains mode session
    rw [ran] at same gains
    refine ⟨made, gains.names_eq, ?_⟩
    intro name member
    obtain ⟨path, listed, level⟩ := levels name member
    cases inquires with
    | failed _ => simp at same
    | made _ _ => simp at same
    | rejected _ stops =>
        obtain ⟨action, inside, files⟩ := (stops ▸ asks).folders path listed
        exact ⟨action, inside, path, files, level⟩

/-- A rule that has created a label for a folder when it meets its second forward, and neither one
for the folder behind that nor one for its tag; and a rule without conditions. -/
theorem Rule.filter_inquiries_forwards :
    let session : Session := { account := { labels := [⟨"Label_7", "work"⟩] } }
    let subject : Condition := ⟨.and, .field .subject, .contains, "x"⟩
    let actions : List Action :=
      [.addTag "custom", .copyTo ⟨"h", none, "u", ["Work", "2024"]⟩, .forward colleague,
        .forward colleague, .moveTo ⟨"h", none, "u", ["Later"]⟩]
    let rule : Rule := { name := "a", criteria := { conditions := [subject] }, actions }
    let bare : Rule := { name := "b", actions }
    rule.Asks TagTable.initial ["Work/2024"] (some .secondForward) ∧
      rule.Inquires ["Work/2024"] (some .secondForward)
        (rule.watchedFilter (labelDirectory .real) TagTable.initial session) ∧
      (bare.filter .real TagTable.initial session).2 = session ∧
      ∃ after, rule.filter .real TagTable.initial session =
          (.error (.rejected ⟨.secondForward, some rule⟩), after) ∧
        after.names .real = ["work", "Work/2024"] ∧
        ∃ made, after.names .real = session.names .real ++ made ∧
          ∀ name ∈ made, ∃ action ∈ rule.actions, ∃ path, action.folderPath? = some path ∧
            name ∈ Directory.levels path := by
  intro session subject actions rule bare
  let before : List Action :=
    [.addTag "custom", .copyTo ⟨"h", none, "u", ["Work", "2024"]⟩, .forward colleague]
  have clear : Unoffending [] before :=
    unoffending_iff.mpr ⟨by decide, by simp, by simp [before, Action.IsOddScore]⟩
  have offends : Offends before (.forward colleague) .secondForward :=
    @Offends.forward before colleague colleague (by simp [before])
  have searched : rule.query = .ok "subject:\"x\"" := by decide +kernel
  have folders : before.filterMap Action.folderPath? = ["Work/2024"] := by decide +kernel
  have asks : rule.Asks TagTable.initial ["Work/2024"] (some .secondForward) := by
    rw [← folders]
    exact .stopped searched rfl clear offends
  obtain ⟨_, follows, creates⟩ := rule.filter_inquiries TagTable.initial session
  obtain ⟨_, _, unchanged⟩ := bare.filter_inquiries TagTable.initial session
  have rejected : (rule.filter .real TagTable.initial session).1 =
      .error (.rejected ⟨.secondForward, some rule⟩) := by decide +kernel
  have names : (rule.filter .real TagTable.initial session).2.names .real =
      ["work", "Work/2024"] := by decide +kernel
  have unsearched : bare.query = .error .noConditions := by decide +kernel
  refine ⟨asks, follows _ _ asks _, (unchanged .real).2.1 _ unsearched, ?_⟩
  cases ran : rule.filter .real TagTable.initial session with
  | mk outcome after =>
      rw [ran] at rejected names
      obtain rfl : outcome = _ := rejected
      exact ⟨after, rfl, names, (creates .real).2.2 _ after ran⟩

end MailFilters
