import MailFilters.Filter.Install
import MailFilters.Proofs.Filter.OfRule

/-!
# What installing filters does

* **`submit_granted`**, **`submit_rejected`**, **`submit_failed`** — the three ways in which
  submitting a filter ends.
* **`installEach_disabled`** and the equations behind it — what installing does with the first of
  some rules, by how its own filter fares.
* **`installAll_progress`** — installing makes progress, a real filter adds labels that are there.
-/

namespace MailFilters

/-! ## Submitting -/

namespace RuleFilter

variable (made : RuleFilter) {session : Session} {fault : Fault}

theorem submit_granted
    (granted : session.account.faultOf (.createFilter made.filter) = none) :
    ∃ id, made.submit session =
      (.ok id, { session with account := session.account.after (.createFilter made.filter) }) := by
  obtain ⟨id, answer⟩ := session.account.createFilter_fst made.filter
  rw [granted] at answer
  exact ⟨id, by simp [submit, Task.conclude, Task.request, answer, Task.done, Account.after]⟩

theorem submit_rejected {obstacle : Obstacle}
    (failed : session.account.faultOf (.createFilter made.filter) = some fault)
    (concerned : fault.obstacle? made.rule = some obstacle) :
    made.submit session =
      (.error (.rejected ⟨obstacle, some made.rule⟩),
        { session with account := session.account.after (.createFilter made.filter) }) := by
  obtain ⟨id, answer⟩ := session.account.createFilter_fst made.filter
  rw [failed] at answer
  simp [submit, Task.conclude, Task.request, answer, concerned, Task.fail, Account.after]

theorem submit_failed
    (failed : session.account.faultOf (.createFilter made.filter) = some fault)
    (unconcerned : fault.obstacle? made.rule = none) :
    made.submit session =
      (.error (.request fault),
        { session with
          account := session.account.after (.createFilter made.filter)
          log := session.log ++ [⟨.error, "Error creating filter for rule '" ++ made.rule.name ++
            "': " ++ fault.text⟩] }) := by
  obtain ⟨id, answer⟩ := session.account.createFilter_fst made.filter
  rw [failed] at answer
  simp [submit, Task.conclude, Task.request, answer, unconcerned, Task.note, Task.change, bind,
    Task.andThen, Task.fail, Account.after]

end RuleFilter

/-! ## One rule -/

namespace Rule

variable {mode : Mode} {tags : TagTable} {rule : Rule} {session after : Session}
  {made : RuleFilter}

theorem install_failed {failure : Failure}
    (ran : rule.filter mode tags session = (.error failure, after)) :
    rule.install mode tags session = (.error failure, after) := Task.bind_of_error ran

theorem install_dry (ran : rule.filter .dry tags session = (.ok made, after)) :
    rule.install .dry tags session =
      (.ok made,
        { after with
          log := after.log ++ [⟨.info, "Would create filter for rule '" ++ rule.name ++ "': " ++
            made.filter.text⟩] }) := (Task.bind_of_ok ran).trans rfl

theorem install_submitted {last : Session} {id : String}
    (ran : rule.filter .real tags session = (.ok made, after))
    (submitted : made.submit after = (.ok id, last)) :
    rule.install .real tags session =
      (.ok made,
        { last with
          log := last.log ++ [⟨.debug, "Created filter for rule '" ++ rule.name ++ "'"⟩] }) :=
  (Task.bind_of_ok ran).trans ((Task.bind_of_ok submitted).trans rfl)

theorem install_refused {last : Session} {failure : Failure}
    (ran : rule.filter .real tags session = (.ok made, after))
    (refused : made.submit after = (.error failure, last)) :
    rule.install .real tags session = (.error failure, last) :=
  (Task.bind_of_ok ran).trans (Task.bind_of_error refused)

end Rule

/-! ## Several rules -/

section InstallEach

variable {mode : Mode} {tags : TagTable} {rule : Rule} {rest : List Rule}
  {session after : Session}

theorem installEach_disabled (off : rule.enabled = false) :
    installEach mode tags (rule :: rest) session = installEach mode tags rest session := by
  rw [installEach, if_neg (by simp [off])]

theorem installEach_made {made : RuleFilter} (on : rule.enabled = true)
    (ran : rule.install mode tags session = (.ok made, after)) :
    installEach mode tags (rule :: rest) session =
      installEach mode tags rest { after with handled := after.handled ++ [rule.name] } := by
  rw [installEach, if_pos on, Task.conclude_of_run ran]
  rfl

theorem installEach_failed {failure : Failure} (on : rule.enabled = true)
    (ran : rule.install mode tags session = (.error failure, after))
    (unfit : ∀ rejection, failure ≠ .rejected rejection) :
    installEach mode tags (rule :: rest) session = (.error failure, after) := by
  rw [installEach, if_pos on, Task.conclude_of_run ran]
  cases failure with
  | rejected rejection => exact absurd rfl (unfit rejection)
  | request fault => rfl
  | invalid cause => rfl

/-- The session behind a rule that is set aside. -/
def Session.setAside (session : Session) (rule : Rule) (rejection : Rejection) : Session :=
  { session.noted rule rejection with handled := session.handled ++ [rule.name] }

theorem installEach_rejected {rejection : Rejection} (on : rule.enabled = true)
    (ran : rule.install mode tags session = (.error (.rejected rejection), after)) :
    installEach mode tags (rule :: rest) session =
      (installEach mode tags rest (after.setAside rule rejection)).map
        (Except.map (rejection :: ·)) id := by
  rw [installEach, if_pos on, Task.conclude_of_run ran]
  exact Task.bind_pure_run (installEach mode tags rest) _ (after.setAside rule rejection)

end InstallEach

/-! ## Progress -/

theorem RuleFilter.submit_progress (made : RuleFilter) {session : Session}
    (grounded : made.filter.effect.Grounded .real session) :
    Progress .real session (made.submit session).2 [.createFilter made.filter] := by
  have fits : session.Coherent → session.account.Fits (.createFilter made.filter) := by
    intro coherent id member
    rcases grounded id member with system | ⟨labels, knows, label, inside, same⟩
    · exact .inl system
    · exact .inr ⟨label, coherent labels knows ▸ inside, same⟩
  cases scripted : session.account.faultOf (.createFilter made.filter) with
  | none =>
      obtain ⟨id, submitted⟩ := submit_granted made scripted
      rw [submitted]
      exact .submitted rfl rfl fits
  | some fault =>
      cases concerned : fault.obstacle? made.rule with
      | some obstacle =>
          rw [submit_rejected made scripted concerned]
          exact .submitted rfl rfl fits
      | none =>
          rw [submit_failed made scripted concerned]
          exact .submitted rfl rfl fits

theorem Rule.install_progress (mode : Mode) (tags : TagTable) (rule : Rule) (session : Session) :
    ∃ calls, Progress mode session (rule.install mode tags session).2 calls := by
  obtain ⟨calls, progress, _, compiles⟩ := rule.filter_compiles mode tags session
  cases ran : rule.filter mode tags session with
  | mk outcome after =>
      rw [ran] at progress compiles
      cases compiles with
      | unfit _ _ =>
          rw [install_failed ran]
          exact ⟨calls, progress⟩
      | failed _ =>
          rw [install_failed ran]
          exact ⟨calls, progress⟩
      | @made filter _ _ _ _ grounded =>
          cases mode with
          | dry =>
              rw [install_dry ran]
              exact ⟨calls, progress.noted _ _⟩
          | real =>
              have whole := progress.trans
                (RuleFilter.submit_progress ⟨rule, filter⟩ grounded)
              cases submitted : RuleFilter.submit ⟨rule, filter⟩ after with
              | mk outcome last =>
                  rw [submitted] at whole
                  cases outcome with
                  | ok id =>
                      rw [install_submitted ran submitted]
                      exact ⟨_, whole.noted _ _⟩
                  | error failure =>
                      rw [install_refused ran submitted]
                      exact ⟨_, whole⟩

theorem installEach_progress (mode : Mode) (tags : TagTable) (rules : List Rule)
    (session : Session) :
    ∃ calls, Progress mode session (installEach mode tags rules session).2 calls := by
  induction rules generalizing session with
  | nil => exact ⟨[], .refl session⟩
  | cons rule rest ih =>
      cases enabled : rule.enabled with
      | false =>
          rw [installEach_disabled enabled]
          exact ih session
      | true =>
          obtain ⟨xs, first⟩ := rule.install_progress mode tags session
          cases ran : rule.install mode tags session with
          | mk outcome after =>
              rw [ran] at first
              rcases outcome with (fault | rejection | cause) | made
              · rw [installEach_failed enabled ran (by simp)]
                exact ⟨xs, first⟩
              · rw [installEach_rejected enabled ran]
                obtain ⟨ys, others⟩ := ih (after.setAside rule rejection)
                exact ⟨xs ++ ys, (first.noted _ _).trans others⟩
              · rw [installEach_failed enabled ran (by simp)]
                exact ⟨xs, first⟩
              · rw [installEach_made enabled ran]
                obtain ⟨ys, others⟩ := ih { after with handled := after.handled ++ [rule.name] }
                exact ⟨xs ++ ys, (first.noted _ _).trans others⟩

/-- Installing makes progress; the labels that a real filter adds are there. -/
theorem installAll_progress (mode : Mode) (tags : TagTable) (set : Option (RuleSet Rule))
    (session : Session) :
    ∃ calls, Progress mode session (installAll mode tags set session).2 calls := by
  cases set with
  | none => exact ⟨[], .refl session⟩
  | some set => exact installEach_progress mode tags set.rules session

end MailFilters
