import MailFilters.Proofs.Action
import MailFilters.Proofs.Filter.Install

/-!
# Every rule is accounted for

A real run deals with the enabled rules one after the other.  Each of them becomes a filter of the
account or is set aside for one reason, and a failure that concerns no rule ends the run.

* **`Handling`**, **`Handling.Settled`** — what an account is asked for a rule, and the ways in
  which that settles the rule.
* **`Breaks`** — the ways in which the requests for a rule end a run.
* **`installAll_accounted`** — the requests of a run are those for its enabled rules, in order.
-/

namespace MailFilters

/-- The recipient in the body of a request for a filter; an empty one is left out. -/
def Filter.recipientField (filter : Filter) : Option String :=
  filter.effect.forward.filter (!·.isEmpty)

/-- The recipient of a rule is never empty, so that it is in the body. -/
theorem Filter.recipientField_eq {filter : Filter} {rule : Rule}
    (forwards : filter.effect.forward = rule.recipient?) :
    filter.recipientField = rule.recipient? := by
  rw [recipientField, forwards]
  cases first : rule.recipient? with
  | none => rfl
  | some address =>
      obtain ⟨action, _, same⟩ := List.exists_of_findSome?_eq_some first
      obtain ⟨recipient, rfl, rfl⟩ := Action.recipient?_eq_some_iff.mp same
      simp [Action.recipient_filled recipient]

/-! ## Single rules -/

/-- What an account is asked for a rule, and why the rule is set aside if it is. -/
structure Handling where
  rule : Rule
  requests : List Call
  rejection : Option Rejection := none

/-- The ways in which a rule is settled by requests to an account: some requests for labels, and
one for the filter of the rule behind them unless the rule has an obstacle. -/
inductive Handling.Settled (tags : TagTable) (account : Account) : Handling → Prop
  /-- All requests succeed, the one for the filter too. -/
  | written {rule : Rule} {calls : List Call} {filter : Filter} :
      (∀ call ∈ calls, call.IsForLabels) → rule.obstacle? tags = none →
      rule.query = .ok filter.query → account.Grants (calls ++ [.createFilter filter]) →
      Settled tags account ⟨rule, calls ++ [.createFilter filter], none⟩
  /-- The rule has an obstacle, and no filter is asked for. -/
  | unfit {rule : Rule} {calls : List Call} {obstacle : Obstacle} :
      (∀ call ∈ calls, call.IsForLabels) → rule.obstacle? tags = some obstacle →
      account.Grants calls →
      Settled tags account ⟨rule, calls, some ⟨obstacle, some rule⟩⟩
  /-- The filter is refused because of the recipient that it forwards to. -/
  | address {rule : Rule} {calls : List Call} {filter : Filter} {fault : Fault} :
      (∀ call ∈ calls, call.IsForLabels) → rule.obstacle? tags = none →
      rule.query = .ok filter.query → account.Refuses (calls ++ [.createFilter filter]) fault →
      mentions fault.reason refusedAddress = true →
      Settled tags account
        ⟨rule, calls ++ [.createFilter filter],
          some ⟨.unrecognizedAddress refusedAddress filter.recipientField, some rule⟩⟩
  /-- The filter is refused because there is an equal one. -/
  | duplicate {rule : Rule} {calls : List Call} {filter : Filter} {fault : Fault} :
      (∀ call ∈ calls, call.IsForLabels) → rule.obstacle? tags = none →
      rule.query = .ok filter.query → account.Refuses (calls ++ [.createFilter filter]) fault →
      mentions fault.reason refusedAddress = false →
      mentions fault.reason refusedDuplicate = true →
      Settled tags account
        ⟨rule, calls ++ [.createFilter filter],
          some ⟨.filterExists refusedDuplicate, some rule⟩⟩

/-- The ways in which the requests for a rule end a run: the last one fails, and it is one for a
label, or the failure concerns no rule. -/
inductive Breaks (tags : TagTable) (account : Account) (fault : Fault) (rule : Rule) :
    List Call → Prop
  | label {calls : List Call} : (∀ call ∈ calls, call.IsForLabels) →
      account.Refuses calls fault → Breaks tags account fault rule calls
  | filter {calls : List Call} {filter : Filter} : (∀ call ∈ calls, call.IsForLabels) →
      rule.obstacle? tags = none → rule.query = .ok filter.query →
      account.Refuses (calls ++ [.createFilter filter]) fault →
      mentions fault.reason refusedAddress = false →
      mentions fault.reason refusedDuplicate = false →
      Breaks tags account fault rule (calls ++ [.createFilter filter])

/-- How installing a rule ends: it is settled, or the run breaks off. -/
inductive Rule.Installs (tags : TagTable) (rule : Rule) (account : Account) (calls : List Call) :
    Except Failure RuleFilter → Prop
  | made {made : RuleFilter} : Handling.Settled tags account ⟨rule, calls, none⟩ →
      Installs tags rule account calls (.ok made)
  | setAside {rejection : Rejection} :
      Handling.Settled tags account ⟨rule, calls, some rejection⟩ →
      Installs tags rule account calls (.error (.rejected rejection))
  | broken {fault : Fault} : Breaks tags account fault rule calls →
      Installs tags rule account calls (.error (.request fault))

theorem Account.refuses_concat {account : Account} {calls : List Call} {call : Call}
    {fault : Fault} (granted : account.Grants calls)
    (failed : (account.afterAll calls).faultOf call = some fault) :
    account.Refuses (calls ++ [call]) fault := ⟨calls, call, rfl, granted, failed⟩

/-- **One rule.** Installing a rule settles it or breaks off. -/
theorem Rule.install_installs (tags : TagTable) (rule : Rule) (session : Session) :
    ∃ calls, (rule.install .real tags session).2.account = session.account.afterAll calls ∧
      rule.Installs tags session.account calls (rule.install .real tags session).1 := by
  obtain ⟨calls, progress, forLabels, compiles⟩ := rule.filter_compiles .real tags session
  cases ran : rule.filter .real tags session with
  | mk outcome after =>
      rw [ran] at progress compiles
      have replay : after.account = session.account.afterAll calls := progress.replay
      cases compiles with
      | unfit obstacle granted =>
          rw [install_failed ran]
          exact ⟨calls, replay, .setAside (.unfit forLabels obstacle granted)⟩
      | failed refused =>
          rw [install_failed ran]
          exact ⟨calls, replay, .broken (.label forLabels refused)⟩
      | @made filter clear granted searched forwards _ =>
          refine ⟨calls ++ [.createFilter filter], ?_⟩
          have grown : after.account.after (.createFilter filter) =
              session.account.afterAll (calls ++ [.createFilter filter]) := by
            rw [replay, Account.afterAll_append]
            rfl
          have address := Filter.recipientField_eq forwards
          cases scripted : after.account.faultOf (.createFilter filter) with
          | none =>
              obtain ⟨id, submitted⟩ :=
                RuleFilter.submit_granted ⟨rule, filter⟩ scripted
              rw [replay] at scripted
              rw [install_submitted ran submitted]
              exact ⟨grown, .made (.written forLabels clear searched
                (Account.grants_append.mpr ⟨granted, scripted, trivial⟩))⟩
          | some fault =>
              -- the reason is looked at for the address first, and then for the duplicate
              have refused : session.account.Refuses (calls ++ [.createFilter filter]) fault :=
                Account.refuses_concat granted (replay ▸ scripted)
              by_cases addressed : mentions fault.reason refusedAddress = true
              · have concerned : fault.obstacle? rule =
                    some (.unrecognizedAddress refusedAddress filter.recipientField) := by
                  rw [Fault.obstacle?, if_pos addressed, address]
                rw [install_refused ran
                  (RuleFilter.submit_rejected ⟨rule, filter⟩ scripted concerned)]
                exact ⟨grown, .setAside (.address forLabels clear searched refused addressed)⟩
              · by_cases doubled : mentions fault.reason refusedDuplicate = true
                · have concerned : fault.obstacle? rule =
                      some (.filterExists refusedDuplicate) := by
                    rw [Fault.obstacle?, if_neg addressed, if_pos doubled]
                  rw [install_refused ran
                    (RuleFilter.submit_rejected ⟨rule, filter⟩ scripted concerned)]
                  exact ⟨grown, .setAside (.duplicate forLabels clear searched refused
                    (Bool.eq_false_iff.mpr addressed) doubled)⟩
                · have unconcerned : fault.obstacle? rule = none := by
                    rw [Fault.obstacle?, if_neg addressed, if_neg doubled]
                  rw [install_refused ran
                    (RuleFilter.submit_failed ⟨rule, filter⟩ scripted unconcerned)]
                  exact ⟨grown, .broken (.filter forLabels clear searched refused
                    (Bool.eq_false_iff.mpr addressed) (Bool.eq_false_iff.mpr doubled))⟩

/-! ## Runs -/

/-- The requests of several handlings, in order. -/
def requestsOf (handlings : List Handling) : List Call := handlings.flatMap (·.requests)

/-- Each of several handlings settles its rule, at the account that those before it leave. -/
def AllSettled (tags : TagTable) (account : Account) (handlings : List Handling) : Prop :=
  ∀ earlier handling later, handlings = earlier ++ handling :: later →
    handling.Settled tags (account.afterAll (requestsOf earlier))

theorem AllSettled.nil (tags : TagTable) (account : Account) : AllSettled tags account [] := by
  simp [AllSettled]

theorem AllSettled.cons {tags : TagTable} {account next : Account} {handling : Handling}
    {rest : List Handling} (settled : handling.Settled tags account)
    (replay : next = account.afterAll handling.requests) (others : AllSettled tags next rest) :
    AllSettled tags account (handling :: rest) := by
  subst replay
  intro earlier other later split
  cases earlier with
  | nil =>
      obtain ⟨rfl, _⟩ := List.cons.inj split
      exact settled
  | cons first earlier =>
      obtain ⟨rfl, behind⟩ := List.cons.inj split
      rw [requestsOf, List.flatMap_cons, Account.afterAll_append]
      exact others earlier other later behind

/-- How a run over some rules ends.  If it returns, there is a handling for each enabled rule, and
it returns their rejections.  Otherwise it ends with the failure of the last request for an enabled
rule, and the enabled rules before that one are handled.  There are no other requests. -/
def Accounted (tags : TagTable) (account : Account) (rules : List Rule)
    (handlings : List Handling) : Except Failure (List Rejection) × Session → Prop
  | (.ok rejections, after) =>
    handlings.map (·.rule) = rules.filter (·.enabled) ∧
      rejections = handlings.filterMap (·.rejection) ∧
      after.account = account.afterAll (requestsOf handlings) ∧
      after.account.calls = account.calls ++ requestsOf handlings
  | (.error failure, after) =>
    ∃ rule later calls fault,
      rules.filter (·.enabled) = handlings.map (·.rule) ++ rule :: later ∧
      failure = .request fault ∧
      Breaks tags (account.afterAll (requestsOf handlings)) fault rule calls ∧
      after.account = account.afterAll (requestsOf handlings ++ calls) ∧
      after.account.calls = account.calls ++ requestsOf handlings ++ calls

namespace Accounted

variable {tags : TagTable} {account next : Account} {rule : Rule} {rest : List Rule}
  {calls : List Call} {handlings : List Handling}
  {result : Except Failure (List Rejection) × Session}

theorem disabled (off : rule.enabled = false)
    (accounted : Accounted tags account rest handlings result) :
    Accounted tags account (rule :: rest) handlings result := by
  have same : (rule :: rest).filter (·.enabled) = rest.filter (·.enabled) := by simp [off]
  obtain ⟨_ | _, after⟩ := result <;> rw [Accounted, same] <;> exact accounted

/-- A rule is written, and then the others are dealt with. -/
theorem written (on : rule.enabled = true) (replay : next = account.afterAll calls)
    (accounted : Accounted tags next rest handlings result) :
    Accounted tags account (rule :: rest) (⟨rule, calls, none⟩ :: handlings) result := by
  subst replay
  have same : (rule :: rest).filter (·.enabled) = rule :: rest.filter (·.enabled) := by simp [on]
  obtain ⟨failure | rejections, after⟩ := result
  · obtain ⟨last, later, final, fault, split, told, breaks, replay, recorded⟩ := accounted
    refine ⟨last, later, final, fault, by rw [same, split]; rfl, told, ?_, ?_, ?_⟩
    · simpa [requestsOf] using breaks
    · simpa [requestsOf] using replay
    · simpa [requestsOf, Account.afterAll_calls] using recorded
  · obtain ⟨split, told, replay, recorded⟩ := accounted
    refine ⟨by rw [same, ← split]; rfl, by simpa using told, ?_, ?_⟩
    · simpa [requestsOf] using replay
    · simpa [requestsOf, Account.afterAll_calls] using recorded

/-- A rule is set aside, and then the others are dealt with. -/
theorem setAside {rejection : Rejection} (on : rule.enabled = true)
    (replay : next = account.afterAll calls)
    (accounted : Accounted tags next rest handlings result) :
    Accounted tags account (rule :: rest) (⟨rule, calls, some rejection⟩ :: handlings)
      (result.map (Except.map (rejection :: ·)) id) := by
  have others := accounted.written on replay
  obtain ⟨failure | rejections, after⟩ := result
  · exact others
  · obtain ⟨split, told, replay, recorded⟩ := others
    exact ⟨split, by simpa using told, replay, recorded⟩

end Accounted

theorem installEach_accounted (tags : TagTable) (rules : List Rule) (session : Session) :
    ∃ handlings, AllSettled tags session.account handlings ∧
      Accounted tags session.account rules handlings (installEach .real tags rules session) := by
  induction rules generalizing session with
  | nil => exact ⟨[], .nil tags _, rfl, rfl, rfl, by simp [requestsOf]⟩
  | cons rule rest ih =>
      cases enabled : rule.enabled with
      | false =>
          rw [installEach_disabled enabled]
          obtain ⟨handlings, settled, accounted⟩ := ih session
          exact ⟨handlings, settled, accounted.disabled enabled⟩
      | true =>
          obtain ⟨calls, replay, installs⟩ := rule.install_installs tags session
          cases ran : rule.install .real tags session with
          | mk outcome after =>
              rw [ran] at replay installs
              cases installs with
              | made settledRule =>
                  rw [installEach_made enabled ran]
                  obtain ⟨handlings, settled, accounted⟩ :=
                    ih { after with handled := after.handled ++ [rule.name] }
                  exact ⟨_, .cons settledRule replay settled, accounted.written enabled replay⟩
              | @setAside rejection settledRule =>
                  rw [installEach_rejected enabled ran]
                  obtain ⟨handlings, settled, accounted⟩ :=
                    ih (after.setAside rule rejection)
                  exact ⟨_, .cons settledRule replay settled, accounted.setAside enabled replay⟩
              | @broken fault breaks =>
                  rw [installEach_failed enabled ran (by simp)]
                  refine ⟨[], .nil tags _, rule, rest.filter (·.enabled), calls, fault,
                    by simp [enabled], rfl, breaks, replay, ?_⟩
                  rw [replay, Account.afterAll_calls]
                  simp [requestsOf]

/-- **Accounting.** A real run over a rule set settles its enabled rules one after the other, and
does so up to the failure that ends it if there is one. -/
theorem installAll_accounted (tags : TagTable) (set : RuleSet Rule) (session : Session) :
    ∃ handlings, AllSettled tags session.account handlings ∧
      Accounted tags session.account set.rules handlings
        (installAll .real tags (some set) session) :=
  installEach_accounted tags set.rules session

/-- A recipient that an account may not know. -/
def stranger : Recipient := ⟨"me@example.com", by decide +kernel⟩

/-- A rule that forwards the messages of one sender. -/
def forwarder : Rule where
  name := "Forward"
  enabled := true
  criteria := { conditions := [⟨.and, .field .sender, .contains, "friend@example.com"⟩] }
  actions := [.forward stranger]

/-- A rule set of which an account refuses the only rule: the rule is handled, and its rejection
names the address. -/
theorem forwarder_accounted :
    let set : RuleSet Rule := { version := "9", rules := [forwarder] }
    let account : Account :=
      { filterFaults := [some ⟨403, "Unrecognized forwarding address"⟩] }
    Action.read "Forward" (some stranger.address) = .ok (.forward stranger) ∧
      (installAll .real TagTable.initial (some set) { account }).1 =
        .ok [⟨.unrecognizedAddress refusedAddress (some stranger.address), some forwarder⟩] ∧
      ∃ handlings, AllSettled TagTable.initial account handlings ∧
        Accounted TagTable.initial account set.rules handlings
          (installAll .real TagTable.initial (some set) { account }) := by
  intro set account
  exact ⟨by decide +kernel, by decide +kernel,
    installAll_accounted TagTable.initial set { account }⟩

end MailFilters
