import MailFilters.Proofs.Filter.OfRule

/-!
# Filters made again

Once the filters of some rules have been made, making them again asks for nothing: every path then
has the id that it was given the first time.

* **`Session.Recalls`** — a later session knows at least the labels of an earlier one.
* **`Repeats`** — an activity that did something once does it again without requests, in every
  session that recalls the one that it left behind; such activities can be put together
  (`Repeats.bind`).
* **`acquire_repeats`**, **`carryOut_repeats`**, **`Rule.filter_repeats`** — paths, steps and rules
  are repeated in this sense.
* **`filtersOf_again`** — the filters and the rejections of some rules are the same again.
-/

namespace MailFilters

/-! ## Later sessions -/

/-- The labels that are known in a mode are still known later on, perhaps with others behind
them. -/
def Session.Recalls (mode : Mode) (later earlier : Session) : Prop :=
  ∀ labels, earlier.known mode = some labels →
    ∃ added, later.known mode = some (labels ++ added)

namespace Session.Recalls

variable {mode : Mode} {earlier middle later : Session}

theorem refl (session : Session) : session.Recalls mode session := by
  intro labels knows
  exact ⟨[], by rw [knows, List.append_nil]⟩

theorem trans (back : later.Recalls mode middle) (front : middle.Recalls mode earlier) :
    later.Recalls mode earlier := by
  intro labels knows
  obtain ⟨added, knows'⟩ := front labels knows
  obtain ⟨more, knows''⟩ := back _ knows'
  exact ⟨added ++ more, by rw [knows'', List.append_assoc]⟩

theorem of_progress {calls : List Call} (progress : Progress mode earlier later calls) :
    later.Recalls mode earlier := by
  intro labels knows
  exact (progress.settled labels knows).1

/-- The log has no part in what is known of the labels. -/
theorem of_log {log log' : Log} (recalls : later.Recalls mode earlier) :
    { later with log }.Recalls mode { earlier with log := log' } := by
  cases mode <;> exact recalls

end Session.Recalls

/-! ## Activities that are repeated -/

/-- An activity that led from one session to another forgets no labels, and it leads to the same
outcome, with nothing but lines of the log, in every session that recalls the second one. -/
structure Repeats (mode : Mode) (task : Task ε α) (before : Session) (outcome : Except ε α)
    (after : Session) : Prop where
  recalls : after.Recalls mode before
  again : ∀ later : Session, later.Recalls mode after →
    ∃ log, task later = (outcome, { later with log })

namespace Repeats

variable {mode : Mode} {before middle after : Session}

theorem done (value : α) : Repeats mode (pure value : Task ε α) before (.ok value) before where
  recalls := .refl before
  again later _ := ⟨later.log, rfl⟩

/-- One activity behind another one. -/
theorem bind {first : Task ε α} {next : α → Task ε β} {value : α} {outcome : Except ε β}
    (front : Repeats mode first before (.ok value) middle)
    (back : Repeats mode (next value) middle outcome after) :
    Repeats mode (first >>= next) before outcome after where
  recalls := back.recalls.trans front.recalls
  again later recalls := by
    obtain ⟨log, ran⟩ := front.again later (recalls.trans back.recalls)
    have recalls' : { later with log }.Recalls mode after := recalls.of_log
    obtain ⟨log', ran'⟩ := back.again { later with log } recalls'
    exact ⟨log', (Task.bind_of_ok ran).trans ran'⟩

/-- One activity and what becomes of its outcome. -/
theorem conclude {first : Task ε α} {next : Except ε α → Task δ β} {outcome : Except ε α}
    {result : Except δ β} (front : Repeats mode first before outcome middle)
    (back : Repeats mode (next outcome) middle result after) :
    Repeats mode (first.conclude next) before result after where
  recalls := back.recalls.trans front.recalls
  again later recalls := by
    obtain ⟨log, ran⟩ := front.again later (recalls.trans back.recalls)
    have recalls' : { later with log }.Recalls mode after := recalls.of_log
    obtain ⟨log', ran'⟩ := back.again { later with log } recalls'
    exact ⟨log', (Task.conclude_of_run ran).trans ran'⟩

theorem mapFailure {tell : Fault → ε} {task : Task Fault α} {value : α}
    (repeats : Repeats mode task before (.ok value) after) :
    Repeats mode (task.mapFailure tell) before (.ok value) after :=
  repeats.conclude (.done value)

theorem note (level : LogLevel) (text : String) :
    Repeats mode (Task.note level text : Task ε Unit) before (.ok ())
      { before with log := before.log ++ [⟨level, text⟩] } where
  recalls := (Session.Recalls.refl before).of_log
  again _ _ := ⟨_, rfl⟩

end Repeats

/-- A path that got an id has it again. -/
theorem Directory.acquire_repeats {mode : Mode} {path id : String} {before after : Session}
    (ran : acquire mode path false before = (.ok id, after)) :
    Repeats mode (acquire mode path false) before (.ok id) after := by
  obtain ⟨_, calls, _, did, leaves⟩ := acquire_works mode path before
  rw [ran] at did leaves
  obtain ⟨labels, knows, found⟩ := leaves id rfl
  refine ⟨.of_progress did.progress, ?_⟩
  intro later recalls
  obtain ⟨added, knows'⟩ := recalls labels knows
  -- labels that were added later stand behind the one that was found
  have found' : search path false (labels ++ added) = some id :=
    search_extend found added
  refine ⟨later.log, ?_⟩
  rw [acquire, Task.bind_of_ok (find_known knows' path false), found']
  rfl

/-- Steps that were carried out have the same effect again. -/
theorem carryOut_repeats {mode : Mode} {rule : Rule} {steps : List Step} {effect result : Effect}
    {before after : Session} (ran : carryOut mode rule effect steps before = (.ok result, after)) :
    Repeats mode (carryOut mode rule effect steps) before (.ok result) after := by
  induction steps generalizing effect before with
  | nil =>
      obtain ⟨same, rfl⟩ := Prod.mk.inj ran
      obtain rfl := Except.ok.inj same
      exact .done effect
  | cons step rest ih =>
      cases step with
      | file path =>
          rw [carryOut, Task.bind_eq_ok_iff] at ran
          obtain ⟨id, middle, acquired, others⟩ := ran
          rw [Task.mapFailure_eq_ok_iff] at acquired
          rw [carryOut]
          exact (Directory.acquire_repeats acquired).mapFailure.bind (ih others)
      | add id => exact ih ran
      | remove id => exact ih ran
      | forward recipient => exact ih ran
      | skip action =>
          rw [carryOut] at ran ⊢
          exact (Repeats.note _ _).bind (ih ran)

/-! ## Rules -/

/-- A rule whose filter was made, or that was rejected, fares so again. -/
theorem Rule.filter_repeats {mode : Mode} {tags : TagTable} {rule : Rule}
    {outcome : Except Failure RuleFilter} {before after : Session}
    (ran : rule.filter mode tags before = (outcome, after))
    (answered : ∀ fault, outcome ≠ .error (.request fault)) :
    Repeats mode (rule.filter mode tags) before outcome after := by
  cases searched : rule.query with
  | error obstacle =>
      rw [Rule.filter_unsearched searched] at ran
      obtain ⟨rfl, rfl⟩ := Prod.mk.inj ran
      refine ⟨.refl before, ?_⟩
      intro later _
      exact ⟨later.log, Rule.filter_unsearched searched⟩
  | ok query =>
      cases carried : carryOut mode rule {} (Plan.ofRule tags rule).steps before with
      | mk result middle =>
          cases result with
          | error failure =>
              -- steps stop for a request only, and then the rule stops for it as well
              rw [Rule.filter_refused searched carried] at ran
              have system := Plan.ofRule_systemLabels tags rule
              have grounded : Effect.Grounded {} mode before := by
                intro id member
                simp at member
              obtain ⟨_, _, _, did, _⟩ := carryOut_works rule system {} grounded
              rw [carried] at did
              obtain ⟨fault, rfl, _⟩ := did.answers
              exact absurd (Prod.mk.inj ran).1.symm (answered fault)
          | ok effect =>
              obtain ⟨recalls, again⟩ := carryOut_repeats carried
              cases stops : (Plan.ofRule tags rule).obstacle with
              | some obstacle =>
                  rw [Rule.filter_obstructed searched carried stops] at ran
                  obtain ⟨rfl, rfl⟩ := Prod.mk.inj ran
                  refine ⟨recalls, ?_⟩
                  intro later recalls'
                  obtain ⟨log, carried'⟩ := again later recalls'
                  exact ⟨log, Rule.filter_obstructed searched carried' stops⟩
              | none =>
                  rw [Rule.filter_made searched carried stops] at ran
                  obtain ⟨rfl, rfl⟩ := Prod.mk.inj ran
                  refine ⟨recalls.of_log, ?_⟩
                  intro later recalls'
                  have unlogged : later.Recalls mode middle := recalls'.of_log
                  obtain ⟨log, carried'⟩ := again later unlogged
                  have made := Rule.filter_made searched carried' stops
                  exact ⟨_, made⟩

/-- If no request fails, the filters and the rejections of some rules are the same again. -/
theorem filtersOf_repeats {mode : Mode} {tags : TagTable} {rules : List Rule}
    {result : List RuleFilter × List Rejection} {before after : Session}
    (ran : filtersOf mode tags rules before = (.ok result, after)) :
    Repeats mode (filtersOf mode tags rules) before (.ok result) after := by
  induction rules generalizing before result with
  | nil =>
      obtain ⟨same, rfl⟩ := Prod.mk.inj ran
      obtain rfl := Except.ok.inj same
      exact .done _
  | cons rule rest ih =>
      cases first : rule.filter mode tags before with
      | mk outcome middle =>
          cases outcome with
          | ok made =>
              rw [filtersOf_made first, Task.map_eq_ok_iff] at ran
              obtain ⟨others, rest', rfl⟩ := ran
              have front := Rule.filter_repeats first (by simp)
              exact front.conclude ((ih rest').bind (.done _))
          | error failure =>
              cases failure with
              | rejected rejection =>
                  rw [filtersOf_rejected first, Task.map_eq_ok_iff] at ran
                  obtain ⟨others, rest', rfl⟩ := ran
                  have front := Rule.filter_repeats first (by simp)
                  exact front.conclude ((Repeats.note _ _).bind ((ih rest').bind (.done _)))
              | request fault =>
                  rw [filtersOf_failed first (by simp)] at ran
                  simp at ran
              | invalid cause =>
                  rw [filtersOf_failed first (by simp)] at ran
                  simp at ran

/-- **Made again.** If the filters and the rejections of some rules are given, then the same ones
are given again in the session that is left behind, and only the log of the session changes: there
is no request. -/
theorem filtersOf_again {mode : Mode} {tags : TagTable} {rules : List Rule}
    {result : List RuleFilter × List Rejection} {before after : Session}
    (ran : filtersOf mode tags rules before = (.ok result, after)) :
    ∃ log, filtersOf mode tags rules after = (.ok result, { after with log }) :=
  (filtersOf_repeats ran).again after (.refl after)

/-- Two rules that share a folder in different letter cases; the second one creates a label below
it before it is rejected. -/
theorem filtersOf_again_nested :
    let session : Session := { account := { labels := [⟨"Label_7", "work"⟩] } }
    let subject : Condition := ⟨.and, .field .subject, .contains, "x"⟩
    let rules : List Rule :=
      [{ name := "a", criteria := { conditions := [subject] }
         actions := [.copyTo ⟨"h", none, "u", ["Work", "2024"]⟩] },
       { name := "b", criteria := { conditions := [subject] }
         actions := [.moveTo ⟨"h", none, "u", ["WORK", "2024", "Q"]⟩, .junkScore 7] }]
    ∃ result after log, filtersOf .real TagTable.initial rules session = (.ok result, after) ∧
      filtersOf .real TagTable.initial rules after = (.ok result, { after with log }) ∧
      after.account.calls =
        [.listLabels, .createLabel "Work/2024", .createLabel "WORK/2024/Q"] := by
  intro session subject rules
  have returns : (filtersOf .real TagTable.initial rules session).1.isOk = true := by
    decide +kernel
  have calls : (filtersOf .real TagTable.initial rules session).2.account.calls =
      [.listLabels, .createLabel "Work/2024", .createLabel "WORK/2024/Q"] := by decide +kernel
  cases ran : filtersOf .real TagTable.initial rules session with
  | mk outcome after =>
      rw [ran] at returns calls
      cases outcome with
      | error failure => simp [Except.isOk, Except.toBool] at returns
      | ok result =>
          obtain ⟨log, again⟩ := filtersOf_again ran
          exact ⟨result, after, log, rfl, again, calls⟩

end MailFilters
