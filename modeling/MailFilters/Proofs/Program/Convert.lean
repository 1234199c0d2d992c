import MailFilters.Program.Convert
import MailFilters.Proofs.Document.Parsed
import MailFilters.Proofs.Document.Refusals
import MailFilters.Proofs.Filter.Accounting
import MailFilters.Proofs.Filter.DryRun
import MailFilters.Proofs.Filter.Verdict

/-!
# How a run over a rules file ends

The exit code and the numbers in the log are those of what was asked of the account.

* **`Account.filtersGranted`**, **`filterCounts`** — how many requests for filters succeed, in all
  and for each rule that is handled.
* **`filterCounts_settled`** — a rule that is settled has one filter, or none if it is set aside.
* **`Writes`**, **`OnlyLooks`** — what a real run and a dry run over a rule set come to.
* **`convert_ends`** — how a run ends: what its exit code says, what it asks for, and that it shows
  every rule set that was read.
-/

namespace MailFilters

/-! ## Requests for filters that succeed -/

/-- Whether a request is one for a filter and succeeds. -/
def Account.grantsFilter (account : Account) : Call → Bool
  | .createFilter filter => (account.faultOf (.createFilter filter)).isNone
  | .listLabels | .createLabel _ => false

/-- How many of some requests to an account are for filters and succeed. -/
def Account.filtersGranted (account : Account) : List Call → Nat
  | [] => 0
  | call :: rest =>
    (account.grantsFilter call).toNat + (account.after call).filtersGranted rest

/-- How many filters are created by each of several handlings, at the account that those before it
leave. -/
def filterCounts (account : Account) : List Handling → List Nat
  | [] => []
  | handling :: rest =>
    account.filtersGranted handling.requests ::
      filterCounts (account.afterAll handling.requests) rest

namespace Account

theorem filtersGranted_append (account : Account) (first second : List Call) :
    account.filtersGranted (first ++ second) =
      account.filtersGranted first + (account.afterAll first).filtersGranted second := by
  induction first generalizing account with
  | nil => simp [filtersGranted]
  | cons call rest ih =>
      rw [List.cons_append, filtersGranted, filtersGranted, ih, afterAll_cons]
      omega

theorem filtersGranted_labels (account : Account) {calls : List Call}
    (forLabels : ∀ call ∈ calls, call.IsForLabels) : account.filtersGranted calls = 0 := by
  induction calls generalizing account with
  | nil => rfl
  | cons call rest ih =>
      obtain ⟨isForLabels, others⟩ := List.forall_mem_cons.mp forLabels
      have none : account.grantsFilter call = false := by
        cases call with
        | createFilter filter => exact isForLabels.elim
        | listLabels => rfl
        | createLabel name => rfl
      rw [filtersGranted, none, ih _ others]
      rfl

/-- Requests for labels with one for a filter behind them. -/
theorem filtersGranted_concat (account : Account) {calls : List Call} {filter : Filter}
    (forLabels : ∀ call ∈ calls, call.IsForLabels) :
    account.filtersGranted (calls ++ [.createFilter filter]) =
      ((account.afterAll calls).faultOf (.createFilter filter)).isNone.toNat := by
  rw [filtersGranted_append, account.filtersGranted_labels forLabels]
  simp [filtersGranted, grantsFilter]

/-- The requests of several handlings create as many filters as these do one by one. -/
theorem filtersGranted_requestsOf (account : Account) (handlings : List Handling) :
    account.filtersGranted (requestsOf handlings) = (filterCounts account handlings).sum := by
  induction handlings generalizing account with
  | nil => rfl
  | cons handling rest ih =>
      have split : requestsOf (handling :: rest) = handling.requests ++ requestsOf rest :=
        List.flatMap_cons
      rw [split, filtersGranted_append, ih, filterCounts, List.sum_cons]

theorem Refuses.last {account : Account} {calls : List Call} {call : Call} {fault : Fault}
    (refused : account.Refuses (calls ++ [call]) fault) :
    (account.afterAll calls).faultOf call = some fault := by
  obtain ⟨before, other, split, _, failed⟩ := refused
  obtain ⟨rfl, same⟩ := List.append_inj' split rfl
  obtain rfl := List.singleton_inj.mp same
  exact failed

end Account

/-! ## Handlings that settle their rules -/

/-- A rule that is settled has one filter, or none if it is set aside. -/
theorem Handling.Settled.count {tags : TagTable} {account : Account} {handling : Handling}
    (settled : handling.Settled tags account) :
    account.filtersGranted handling.requests = handling.rejection.isNone.toNat := by
  cases settled with
  | written forLabels _ _ granted =>
      have succeeds := (Account.grants_append.mp granted).2.1
      rw [account.filtersGranted_concat forLabels, succeeds]
      rfl
  | unfit forLabels _ _ => exact account.filtersGranted_labels forLabels
  | address forLabels _ _ refused _ =>
      rw [account.filtersGranted_concat forLabels, refused.last]
      rfl
  | duplicate forLabels _ _ refused _ _ =>
      rw [account.filtersGranted_concat forLabels, refused.last]
      rfl

/-- A rejection names the rule that it settles. -/
theorem Handling.Settled.about {tags : TagTable} {account : Account} {handling : Handling}
    (settled : handling.Settled tags account) {rejection : Rejection}
    (rejected : handling.rejection = some rejection) : rejection.rule = some handling.rule := by
  cases settled with
  | written _ _ _ _ => simp at rejected
  | unfit _ _ _ => rw [← Option.some.inj rejected]
  | address _ _ _ _ _ => rw [← Option.some.inj rejected]
  | duplicate _ _ _ _ _ _ => rw [← Option.some.inj rejected]

theorem AllSettled.uncons {tags : TagTable} {account : Account} {handling : Handling}
    {rest : List Handling} (settled : AllSettled tags account (handling :: rest)) :
    handling.Settled tags account ∧ AllSettled tags (account.afterAll handling.requests) rest := by
  refine ⟨settled [] handling rest rfl, ?_⟩
  rintro earlier other later rfl
  have there := settled (handling :: earlier) other later rfl
  rwa [requestsOf, List.flatMap_cons, Account.afterAll_append] at there

theorem AllSettled.exists {tags : TagTable} {account : Account} {handlings : List Handling}
    (settled : AllSettled tags account handlings) {handling : Handling}
    (member : handling ∈ handlings) : ∃ now, handling.Settled tags now := by
  obtain ⟨earlier, later, split⟩ := List.append_of_mem member
  exact ⟨_, settled earlier handling later split⟩

/-- Each of several handlings that settle their rules creates one filter, or none if it sets its
rule aside. -/
theorem filterCounts_settled {tags : TagTable} {account : Account} {handlings : List Handling}
    (settled : AllSettled tags account handlings) :
    filterCounts account handlings = handlings.map (·.rejection.isNone.toNat) := by
  induction handlings generalizing account with
  | nil => rfl
  | cons handling rest ih =>
      obtain ⟨first, others⟩ := settled.uncons
      rw [filterCounts, first.count, ih others, List.map_cons]

namespace AllSettled

variable {tags : TagTable} {account : Account} {handlings : List Handling}

/-- The handlings that set their rules aside are those that create no filter. -/
theorem count_zero (settled : AllSettled tags account handlings) :
    (filterCounts account handlings).count 0 = (handlings.filterMap (·.rejection)).length := by
  rw [filterCounts_settled settled]
  clear settled
  induction handlings with
  | nil => rfl
  | cons handling rest ih =>
      rw [List.map_cons, List.count_cons, ih]
      cases rejected : handling.rejection <;> simp [rejected]

/-- The other handlings create one each. -/
theorem filtersGranted (settled : AllSettled tags account handlings) :
    account.filtersGranted (requestsOf handlings) =
      handlings.length - (handlings.filterMap (·.rejection)).length := by
  rw [Account.filtersGranted_requestsOf, filterCounts_settled settled]
  clear settled
  induction handlings with
  | nil => rfl
  | cons handling rest ih =>
      have bound := List.length_filterMap_le (·.rejection) rest
      rw [List.map_cons, List.sum_cons, ih]
      cases rejected : handling.rejection with
      | some rejection => simp [rejected]
      | none =>
          simp [rejected]
          omega

theorem forall_one_iff (settled : AllSettled tags account handlings) :
    (∀ count ∈ filterCounts account handlings, count = 1) ↔
      handlings.filterMap (·.rejection) = [] := by
  rw [filterCounts_settled settled, List.filterMap_eq_nil_iff, List.forall_mem_map]
  refine forall₂_congr ?_
  intro handling _
  cases handling.rejection <;> simp

theorem exists_zero_iff (settled : AllSettled tags account handlings) :
    (∃ count ∈ filterCounts account handlings, count = 0) ↔
      handlings.filterMap (·.rejection) ≠ [] := by
  rw [← List.length_pos_iff, ← settled.count_zero, List.count_pos_iff]
  simp

end AllSettled

/-! ## Installing -/

/-- A dry run gives the rejections of the rules with an obstacle, unless a request fails. -/
theorem installEach_dry (tags : TagTable) (rules : List Rule) (before : Session) :
    (installEach .dry tags rules before).1 = .ok (rejectionsOf tags rules) ∨
      ∃ fault, (installEach .dry tags rules before).1 = .error (.request fault) := by
  induction rules generalizing before with
  | nil => exact .inl rfl
  | cons rule rest ih =>
      cases enabled : rule.enabled with
      | false =>
          rw [installEach_disabled enabled]
          simpa [rejectionsOf, enabled] using ih before
      | true =>
          obtain ⟨calls, _, _, compiles⟩ := rule.filter_compiles .dry tags before
          cases ran : rule.filter .dry tags before with
          | mk outcome middle =>
              rw [ran] at compiles
              cases compiles with
              | failed _ =>
                  rw [installEach_failed enabled (Rule.install_failed ran) (by simp)]
                  exact .inr ⟨_, rfl⟩
              | @unfit obstacle stops _ =>
                  rw [installEach_rejected enabled (Rule.install_failed ran)]
                  rcases ih (middle.setAside rule ⟨obstacle, some rule⟩) with others | failed
                  · exact .inl (by simp [others, rejectionsOf, enabled, stops, Except.map])
                  · obtain ⟨fault, failed⟩ := failed
                    exact .inr ⟨fault, by simp [failed, Except.map]⟩
              | made clear _ _ _ _ =>
                  rw [installEach_made enabled (Rule.install_dry ran)]
                  simpa [rejectionsOf, enabled, clear] using ih _

/-- Some rules have rejections if one of the enabled ones fails. -/
theorem rejectionsOf_ne_nil (tags : TagTable) {rules : List Rule} :
    rejectionsOf tags rules ≠ [] ↔
      ∃ rule ∈ rules, rule.enabled = true ∧ ∃ obstacle, rule.Fails obstacle := by
  constructor
  · intro some
    obtain ⟨rejection, member⟩ := List.exists_mem_of_ne_nil _ some
    obtain ⟨rule, inside, given⟩ := List.mem_filterMap.mp member
    obtain ⟨obstacle, stops, _⟩ := Option.map_eq_some_iff.mp given
    obtain ⟨listed, enabled⟩ := List.mem_filter.mp inside
    exact ⟨rule, listed, enabled, obstacle, Rule.obstacle?_iff_fails.mp stops⟩
  · intro failing
    obtain ⟨rule, listed, enabled, obstacle, fails⟩ := failing
    have stops : rule.obstacle? tags = some obstacle := Rule.obstacle?_iff_fails.mpr fails
    exact List.ne_nil_of_mem (List.mem_filterMap.mpr
      ⟨rule, List.mem_filter.mpr ⟨listed, enabled⟩, by rw [stops]; rfl⟩)

/-- A dry run asks for the list of labels only. -/
theorem installEach_looks (tags : TagTable) (rules : List Rule) (before : Session) :
    ∃ calls, (installEach .dry tags rules before).2.account.calls = before.account.calls ++ calls ∧
      ∀ call ∈ calls, call = .listLabels := by
  obtain ⟨calls, progress⟩ := installEach_progress .dry tags rules before
  refine ⟨calls, ?_, progress.allowed⟩
  rw [progress.replay, Account.afterAll_calls]

/-- The rules of rejections are among the rules that were to be installed. -/
theorem installEach_about {mode : Mode} {tags : TagTable} {rules : List Rule}
    {rejections : List Rejection} {before after : Session}
    (ran : installEach mode tags rules before = (.ok rejections, after)) :
    ∀ rejection ∈ rejections, ∃ rule ∈ rules, rejection.rule = some rule := by
  intro rejection member
  cases mode with
  | dry =>
      -- the rejections are those of the rules with an obstacle
      have outcome := installEach_dry tags rules before
      rw [ran] at outcome
      obtain rfl : rejections = rejectionsOf tags rules := by simpa using outcome
      obtain ⟨rule, inside, given⟩ := List.mem_filterMap.mp member
      obtain ⟨obstacle, _, rfl⟩ := Option.map_eq_some_iff.mp given
      exact ⟨rule, (List.mem_filter.mp inside).1, rfl⟩
  | real =>
      -- the rejections are those of the handlings, and the account may have caused some
      obtain ⟨handlings, settled, accounted⟩ := installEach_accounted tags rules before
      rw [ran] at accounted
      obtain ⟨rules', rfl, _⟩ := accounted
      obtain ⟨handling, inside, rejected⟩ := List.mem_filterMap.mp member
      obtain ⟨now, settledNow⟩ := settled.exists inside
      have enabled : handling.rule ∈ rules.filter (·.enabled) :=
        rules' ▸ List.mem_map_of_mem inside
      exact ⟨handling.rule, (List.mem_filter.mp enabled).1, settledNow.about rejected⟩

/-- The rejections of rules that can be shown can be shown. -/
theorem installEach_shown {mode : Mode} {tags : TagTable} {rules : List Rule}
    (named : ∀ rule ∈ rules, rule.HasNames) {rejections : List Rejection} {before after : Session}
    (ran : installEach mode tags rules before = (.ok rejections, after)) :
    ∀ rejection ∈ rejections, ∃ text, rejection.text = .ok text := by
  intro rejection member
  obtain ⟨rule, inside, about⟩ := installEach_about ran rejection member
  exact Rejection.text_of_names (named rule inside) about

/-- Installing rules fails with a request only. -/
theorem installEach_fails {mode : Mode} {tags : TagTable} {rules : List Rule}
    {failure : Failure} {before after : Session}
    (ran : installEach mode tags rules before = (.error failure, after)) :
    ∃ fault, failure = .request fault := by
  cases mode with
  | dry =>
      have outcome := installEach_dry tags rules before
      rw [ran] at outcome
      simpa using outcome
  | real =>
      obtain ⟨handlings, _, accounted⟩ := installEach_accounted tags rules before
      rw [ran] at accounted
      obtain ⟨_, _, _, fault, _, told, _⟩ := accounted
      exact ⟨fault, told⟩

/-! ## The end of a run -/

/-- What the log says at the end of a run. -/
def doneNote (written skipped : Nat) : LogEntry :=
  ⟨.info, "Done: " ++ Text.decimal written ++ " filters written, " ++ Text.decimal skipped ++
    " skipped"⟩

theorem noteRejections_shown {rejections : List Rejection}
    (shown : ∀ rejection ∈ rejections, ∃ text, rejection.text = .ok text) (session : Session) :
    ∃ log, noteRejections rejections session = (.ok (), { session with log }) := by
  induction rejections generalizing session with
  | nil => exact ⟨session.log, rfl⟩
  | cons rejection rest ih =>
      obtain ⟨⟨text, first⟩, others⟩ := List.forall_mem_cons.mp shown
      rw [noteRejections, first]
      exact ih others _

/-- The session in which the rules of a rule set are installed. -/
def Session.writing (session : Session) (set : RuleSet Rule) : Session :=
  { session with
    log := session.log ++ [⟨.info, "Writing " ++
      Text.decimal (set.rules.filter (·.enabled)).length ++ " of " ++
      Text.decimal set.rules.length ++ " rules as Gmail filters..."⟩] }

section WriteRules

variable {mode : Mode} {set : RuleSet Rule} {session after : Session}

theorem writeRules_failed {failure : Failure}
    (ran : installEach mode TagTable.initial set.rules (session.writing set) =
      (.error failure, after)) :
    writeRules mode set session = (.error failure, after) := by
  show (installEach mode TagTable.initial set.rules >>= _) (session.writing set) = _
  exact Task.bind_of_error ran

/-- A run over a rule set that can be shown ends well if its rules are installed. -/
theorem writeRules_done {rejections : List Rejection}
    (shown : ∀ rejection ∈ rejections, ∃ text, rejection.text = .ok text)
    (ran : installEach mode TagTable.initial set.rules (session.writing set) =
      (.ok rejections, after)) :
    ∃ log, writeRules mode set session =
      (.ok { exitCode := if rejections.isEmpty then 0 else 1 },
        { after with
          log := log ++ [doneNote ((set.rules.filter (·.enabled)).length - rejections.length)
            rejections.length] }) := by
  obtain ⟨log, noted⟩ := noteRejections_shown shown after
  refine ⟨log, ?_⟩
  exact (Task.bind_of_ok ran).trans ((Task.bind_of_ok noted).trans rfl)

/-- A run over a rule set that was read gives a report once the rules are installed, and otherwise
it fails with a request. -/
theorem writeRules_ends (named : ∀ rule ∈ set.rules, rule.HasNames) (mode : Mode)
    (session : Session) :
    (∃ rejections middle log,
      installEach mode TagTable.initial set.rules (session.writing set) =
        (.ok rejections, middle) ∧
      writeRules mode set session =
        (.ok { exitCode := if rejections.isEmpty then 0 else 1 },
          { middle with
            log := log ++ [doneNote ((set.rules.filter (·.enabled)).length - rejections.length)
              rejections.length] })) ∨
      ∃ fault, (writeRules mode set session).1 = .error (.request fault) := by
  cases ran : installEach mode TagTable.initial set.rules (session.writing set) with
  | mk outcome middle =>
      cases outcome with
      | error failure =>
          obtain ⟨fault, rfl⟩ := installEach_fails ran
          exact .inr ⟨fault, by rw [writeRules_failed ran]⟩
      | ok rejections =>
          obtain ⟨log, done⟩ := writeRules_done (installEach_shown named ran) ran
          exact .inl ⟨rejections, middle, log, rfl, done⟩

end WriteRules

/-- What a real run over a rule set comes to.  The enabled rules are settled one after the other,
and nothing else is asked for; the exit code is 0 if each of them has one filter, and 1 if one of
them has none; the last line of the log says how many filters were created and how many rules have
none. -/
structure Writes (set : RuleSet Rule) (account : Account) (after : Session) (exitCode : Nat)
    (handlings : List Handling) : Prop where
  rules : handlings.map (·.rule) = set.rules.filter (·.enabled)
  settled : AllSettled TagTable.initial account handlings
  requests : after.account.calls = account.calls ++ requestsOf handlings
  full : exitCode = 0 ↔ ∀ count ∈ filterCounts account handlings, count = 1
  partly : exitCode = 1 ↔ ∃ count ∈ filterCounts account handlings, count = 0
  summary : after.log.getLast? = some (doneNote
    (account.filtersGranted (requestsOf handlings))
    ((filterCounts account handlings).count 0))

/-- What a dry run over a rule set comes to: labels are listed at most, and the exit code is 1 if an
enabled rule fails. -/
structure OnlyLooks (set : RuleSet Rule) (account : Account) (after : Session) (exitCode : Nat) :
    Prop where
  requests : ∃ calls, after.account.calls = account.calls ++ calls ∧
    ∀ call ∈ calls, call = .listLabels
  partly : exitCode = 1 ↔
    ∃ rule ∈ set.rules, rule.enabled = true ∧ ∃ obstacle, rule.Fails obstacle

section Runs

variable {set : RuleSet Rule} {before middle : Session} {rejections : List Rejection}

theorem installEach_writes
    (ran : installEach .real TagTable.initial set.rules (before.writing set) =
      (.ok rejections, middle)) (log : Log) :
    ∃ handlings, Writes set before.account
      { middle with
        log := log ++ [doneNote ((set.rules.filter (·.enabled)).length - rejections.length)
          rejections.length] }
      (if rejections.isEmpty then 0 else 1) handlings := by
  obtain ⟨handlings, settled, accounted⟩ :=
    installEach_accounted TagTable.initial set.rules (before.writing set)
  rw [ran] at accounted
  obtain ⟨rules, rfl, _, requests⟩ := accounted
  -- the line of the log before that is no request
  have settled : AllSettled TagTable.initial before.account handlings := settled
  have enabled : (set.rules.filter (·.enabled)).length = handlings.length := by
    rw [← rules, List.length_map]
  refine ⟨handlings, rules, settled, requests, ?_, ?_, ?_⟩
  · -- full: no handling set its rule aside
    rw [settled.forall_one_iff, ← List.isEmpty_iff]
    split <;> simp [*]
  · -- partly: one of them did
    rw [settled.exists_zero_iff, ne_eq, ← List.isEmpty_iff]
    split <;> simp [*]
  · -- summary: the log counts rules and rejections, and not requests
    rw [settled.filtersGranted, settled.count_zero, enabled]
    exact List.getLast?_concat

theorem installEach_onlyLooks
    (ran : installEach .dry TagTable.initial set.rules (before.writing set) =
      (.ok rejections, middle)) (log : Log) :
    OnlyLooks set before.account { middle with log } (if rejections.isEmpty then 0 else 1) := by
  have looks := installEach_looks TagTable.initial set.rules (before.writing set)
  have outcome := installEach_dry TagTable.initial set.rules (before.writing set)
  rw [ran] at looks outcome
  obtain rfl : rejections = rejectionsOf TagTable.initial set.rules := by simpa using outcome
  refine ⟨looks, ?_⟩
  rw [← rejectionsOf_ne_nil TagTable.initial, ne_eq, ← List.isEmpty_iff]
  split <;> simp [*]

/-- What the report of a run over a rule set that was read says. -/
theorem writeRules_report (named : ∀ rule ∈ set.rules, rule.HasNames) {mode : Mode}
    {report : Report} {after : Session} (ran : writeRules mode set before = (.ok report, after)) :
    report.exitCode ≠ 2 ∧
      (mode = .real → ∃ handlings, Writes set before.account after report.exitCode handlings) ∧
      (mode = .dry → OnlyLooks set before.account after report.exitCode) := by
  rcases writeRules_ends named mode before with
    ⟨rejections, middle, log, installed, done⟩ | ⟨fault, failed⟩
  · rw [ran] at done
    obtain ⟨same, rfl⟩ := Prod.mk.inj done
    obtain rfl := Except.ok.inj same
    refine ⟨by dsimp only; split <;> simp, ?_, ?_⟩
    · rintro rfl
      exact installEach_writes installed log
    · rintro rfl
      exact installEach_onlyLooks installed _
  · rw [ran] at failed
    simp at failed

end Runs

/-! ## Runs over a file -/

open Document (Files readNamed HoldsNoTokens)

section Convert

variable {files : Files} {name : String} {mode : Mode} {showOnly : Bool} {session : Session}

/-- The session in which the outcome of reading a file is dealt with. -/
def Session.reading (session : Session) (files : Files) (name : String) : Session :=
  { session with log := session.log ++ (readNamed files name).2 }

theorem convert_blank (read : (readNamed files name).1 = .ok none) :
    (convert files name mode showOnly session).1 = .ok { exitCode := 0 } := by
  have split : readNamed files name = (.ok none, (readNamed files name).2) := Prod.ext read rfl
  rw [convert, split]
  rfl

/-- Nothing is asked for if no rule set was read. -/
theorem convert_unread (unread : ∀ set, (readNamed files name).1 ≠ .ok (some set)) :
    (convert files name mode showOnly session).2.account = session.account := by
  rw [convert]
  generalize readNamed files name = reading at unread ⊢
  obtain ⟨cause | _ | set, log⟩ := reading
  · by_cases reported : cause.isReported = true
    · simp only [if_pos reported]
      rfl
    · simp only [if_neg reported]
      rfl
  · rfl
  · exact absurd rfl (unread set)

variable {set : RuleSet Rule}

theorem convert_shown (read : (readNamed files name).1 = .ok (some set)) {text : String}
    (shown : set.text = .ok text) :
    convert files name mode true session =
      (.ok { exitCode := 0, printed := text ++ "\n" }, session.reading files name) := by
  have split : readNamed files name = (.ok (some set), (readNamed files name).2) :=
    Prod.ext read rfl
  rw [convert, split]
  show showRules set (session.reading files name) = _
  rw [showRules, shown]
  rfl

theorem convert_written (read : (readNamed files name).1 = .ok (some set)) :
    convert files name mode false session = writeRules mode set (session.reading files name) := by
  have split : readNamed files name = (.ok (some set), (readNamed files name).2) :=
    Prod.ext read rfl
  rw [convert, split]
  rfl

end Convert

/-- What a run over a file comes to that gives a report.  The exit code is 2 exactly if reading the
file was refused with an error that is reported.  Nothing is asked for then, or if the file has no
tokens, or if rules are only to be shown.  Otherwise the rules that were read are installed. -/
structure Ends (files : Files) (name : String) (mode : Mode) (showOnly : Bool) (before : Session)
    (report : Report) (after : Session) : Prop where
  refused : report.exitCode = 2 ↔
    ∃ cause, (readNamed files name).1 = .error cause ∧ cause.isReported = true
  idle : report.exitCode = 2 ∨ HoldsNoTokens files name ∨ showOnly = true →
    after.account = before.account
  real : ∀ set, (readNamed files name).1 = .ok (some set) → showOnly = false → mode = .real →
    ∃ handlings, Writes set before.account after report.exitCode handlings
  dry : ∀ set, (readNamed files name).1 = .ok (some set) → showOnly = false → mode = .dry →
    OnlyLooks set before.account after report.exitCode

section Ends

variable {files : Files} {name : String} {mode : Mode} {showOnly : Bool} {before after : Session}
  {report : Report}

theorem ends_of_error {cause : RuleError} (read : (readNamed files name).1 = .error cause)
    (ran : convert files name mode showOnly before = (.ok report, after)) :
    Ends files name mode showOnly before report after := by
  have exits := Document.convert_refused mode showOnly before read
  have idle : (convert files name mode showOnly before).2.account = before.account :=
    convert_unread (by simp [read])
  rw [ran] at exits idle
  by_cases reported : cause.isReported = true
  · rw [if_pos reported] at exits
    obtain rfl := Except.ok.inj exits
    exact ⟨by simp [read, reported], fun _ => idle, by simp [read], by simp [read]⟩
  · rw [if_neg reported] at exits
    simp at exits

theorem ends_of_none (read : (readNamed files name).1 = .ok none)
    (ran : convert files name mode showOnly before = (.ok report, after)) :
    Ends files name mode showOnly before report after := by
  have exits : (convert files name mode showOnly before).1 = .ok { exitCode := 0 } :=
    convert_blank read
  have idle : (convert files name mode showOnly before).2.account = before.account :=
    convert_unread (by simp [read])
  rw [ran] at exits idle
  obtain rfl := Except.ok.inj exits
  exact ⟨by simp [read], fun _ => idle, by simp [read], by simp [read]⟩

variable {set : RuleSet Rule}

theorem ends_of_shown (read : (readNamed files name).1 = .ok (some set))
    (ran : convert files name mode true before = (.ok report, after)) :
    Ends files name mode true before report after := by
  obtain ⟨text, shown⟩ := RuleSet.text_of_names (Document.readNamed_names read)
  rw [convert_shown read shown] at ran
  obtain ⟨same, rfl⟩ := Prod.mk.inj ran
  obtain rfl := Except.ok.inj same
  exact ⟨by simp [read], fun _ => rfl, by simp, by simp⟩

theorem ends_of_written (read : (readNamed files name).1 = .ok (some set))
    (ran : convert files name mode false before = (.ok report, after)) :
    Ends files name mode false before report after := by
  rw [convert_written read] at ran
  obtain ⟨notTwo, real, dry⟩ := writeRules_report (Document.readNamed_names read) ran
  refine ⟨by simp [read, notTwo], ?_, ?_, ?_⟩
  · intro cause
    rcases cause with two | blank | shows
    · exact absurd two notTwo
    · have unread := Document.readNamed_none_iff.mpr blank
      simp [read] at unread
    · simp at shows
  · intro other read' _ isReal
    obtain rfl : set = other := by simpa [read] using read'
    exact real isReal
  · intro other read' _ isDry
    obtain rfl : set = other := by simpa [read] using read'
    exact dry isDry

theorem ends_of_report
    (ran : convert files name mode showOnly before = (.ok report, after)) :
    Ends files name mode showOnly before report after := by
  rcases read : (readNamed files name).1 with cause | _ | set
  · exact ends_of_error read ran
  · exact ends_of_none read ran
  · cases showOnly with
    | true => exact ends_of_shown read ran
    | false => exact ends_of_written read ran

end Ends

/-- **Endings.** A run that gives a report ends as its exit code and its log say.  A rule set that
was read has names for the types of all its rules; so it is shown as a whole if it is only to be
shown, and otherwise the run gives a report unless a request fails. -/
theorem convert_ends (files : Files) (name : String) (mode : Mode) (showOnly : Bool)
    (session : Session) :
    (∀ report after, convert files name mode showOnly session = (.ok report, after) →
      Ends files name mode showOnly session report after) ∧
    ∀ set, (readNamed files name).1 = .ok (some set) →
      (∀ rule ∈ set.rules, ∃ names, rule.flagNames = .ok names) ∧
      (showOnly = true → ∃ text, set.text = .ok text ∧
        (convert files name mode showOnly session).1 =
          .ok { exitCode := 0, printed := text ++ "\n" }) ∧
      (showOnly = false →
        (∃ report, (convert files name mode showOnly session).1 = .ok report) ∨
          ∃ fault, (convert files name mode showOnly session).1 = .error (.request fault)) := by
  constructor
  · exact fun report after ran => ends_of_report ran
  · intro set read
    have named : ∀ rule ∈ set.rules, rule.HasNames := Document.readNamed_names read
    refine ⟨named, ?_, ?_⟩
    · rintro rfl
      obtain ⟨text, shown⟩ := RuleSet.text_of_names named
      exact ⟨text, shown, by rw [convert_shown read shown]⟩
    · rintro rfl
      rw [convert_written read]
      rcases writeRules_ends named mode _ with ⟨_, _, _, _, done⟩ | failed
      · exact .inl ⟨_, congrArg Prod.fst done⟩
      · exact .inr failed

/-- A run over a file with one rule, which the account refuses because it has an equal filter. -/
theorem convert_ends_refused :
    let contents := "version=\"9\"\nname=\"a\"\nenabled=\"yes\"\naction=\"Delete\"" ++
      "\ncondition=\"AND (to,is,x)\""
    let files : Files := [("rules.dat", contents.toUTF8.toList)]
    let session : Session :=
      { account := { filterFaults := [some ⟨400, "Filter already exists"⟩] } }
    ∃ report after set handlings,
      convert files "rules.dat" .real false session = (.ok report, after) ∧
      (readNamed files "rules.dat").1 = .ok (some set) ∧
      Writes set session.account after report.exitCode handlings ∧ report.exitCode = 1 := by
  intro contents files session
  have exits : (convert files "rules.dat" .real false session).1 = .ok { exitCode := 1 } := by
    decide +kernel
  -- a run without a rule set has another exit code
  rcases read : (readNamed files "rules.dat").1 with cause | _ | set
  · rw [Document.convert_refused .real false session read] at exits
    split at exits <;> simp at exits
  · rw [convert_blank read] at exits
    simp at exits
  · cases ran : convert files "rules.dat" .real false session with
    | mk outcome after =>
        rw [ran] at exits
        obtain rfl := exits
        have ends := (convert_ends files "rules.dat" .real false session).1 _ _ ran
        obtain ⟨handlings, writes⟩ := ends.real set read rfl rfl
        exact ⟨_, after, set, handlings, rfl, rfl, writes, rfl⟩

end MailFilters
