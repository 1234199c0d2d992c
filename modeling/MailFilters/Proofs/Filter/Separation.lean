import MailFilters.Proofs.Account.Coherence
import MailFilters.Proofs.Filter.Install

/-!
# Dry and real uses of one writer

Dry and real activities can take turns in one session.  The dry ones only look at the account, and
the real ones go the way that they would have gone alone.

* **`Use`**, **`transcript`** — a use of a writer of filters, and what a sequence of uses shows.
* **`Alike`** — two sessions that real activities cannot tell apart; dry activities lead from a
  session to one that is like it (`Alike.behind_dry`).
* **`Unaware`** — an activity does the same in sessions that are alike.  This is about two runs, so
  what a single run does (`Makes`) does not tell it.
* **`transcript_separate`** — without the dry uses of a sequence, the real ones show the same.
-/

namespace MailFilters

/-! ## Uses of a writer -/

/-- A use of a writer of filters. -/
inductive Use
  | install (rule : Rule)
  | installAll (set : Option (RuleSet Rule))
  | consult (lookup : Directory.Lookup)

/-- What a use of a writer gives. -/
inductive Yield
  | made (made : RuleFilter)
  | rejections (rejections : List Rejection)
  | found (id : Option String)
  deriving DecidableEq, Repr

/-- A use of a writer in a mode. -/
def Use.perform (mode : Mode) (tags : TagTable) : Use → Task Failure Yield
  | .install rule => do return .made (← rule.install mode tags)
  | .installAll set => do return .rejections (← MailFilters.installAll mode tags set)
  | .consult lookup => do return .found (← (lookup.perform mode).mapFailure .request)

/-- What a use of a writer shows: how it ends, and the requests that it makes. -/
structure Entry where
  mode : Mode
  outcome : Except Failure Yield
  requests : List Call

/-- Several uses of a writer, each in a mode, one after the other. -/
def transcript (tags : TagTable) : List (Mode × Use) → Session → List Entry
  | [], _ => []
  | (mode, use) :: rest, session =>
    let (outcome, after) := use.perform mode tags session
    ⟨mode, outcome, after.account.calls.drop session.account.calls.length⟩ ::
      transcript tags rest after

theorem Task.bind_progress {first : Task ε α} {next : α → Task ε β} {mode : Mode}
    {session : Session} (front : ∃ calls, Progress mode session (first session).2 calls)
    (silent : ∀ value session, (next value session).2 = session) :
    ∃ calls, Progress mode session ((first >>= next) session).2 calls := by
  cases ran : first session with
  | mk outcome after =>
      rw [ran] at front
      cases outcome with
      | ok value => rwa [Task.bind_of_ok ran, silent]
      | error cause => rwa [Task.bind_of_error ran]

theorem Use.perform_progress (mode : Mode) (tags : TagTable) (use : Use) (session : Session) :
    ∃ calls, Progress mode session (use.perform mode tags session).2 calls := by
  cases use with
  | install rule =>
      exact Task.bind_progress (rule.install_progress mode tags session) fun _ _ => rfl
  | installAll set =>
      exact Task.bind_progress (installAll_progress mode tags set session) fun _ _ => rfl
  | consult lookup =>
      have works : Works mode Failure.request session
          ((lookup.perform mode).mapFailure .request session) fun _ _ => True :=
        (lookup.perform_works mode session).mapFailure
      obtain ⟨_, calls, _, did, _⟩ := works
      exact Task.bind_progress ⟨calls, did.progress⟩ fun _ _ => rfl

/-- The requests of a use are those that its progress takes. -/
theorem transcript_cons {mode : Mode} {tags : TagTable} {use : Use} {session : Session}
    {calls : List Call} (progress : Progress mode session (use.perform mode tags session).2 calls)
    (rest : List (Mode × Use)) :
    transcript tags ((mode, use) :: rest) session =
      ⟨mode, (use.perform mode tags session).1, calls⟩ ::
        transcript tags rest (use.perform mode tags session).2 := by
  have made : (use.perform mode tags session).2.account.calls.drop
      session.account.calls.length = calls := by
    rw [progress.replay, Account.afterAll_calls, List.drop_left]
  rw [← made]
  rfl

/-- A dry use only looks. -/
theorem transcript_dry (tags : TagTable) (uses : List (Mode × Use)) (session : Session) :
    ∀ entry ∈ transcript tags uses session, entry.mode = .dry →
      ∀ call ∈ entry.requests, call = .listLabels := by
  induction uses generalizing session with
  | nil => simp [transcript]
  | cons use rest ih =>
      obtain ⟨mode, use⟩ := use
      obtain ⟨calls, progress⟩ := use.perform_progress mode tags session
      rw [transcript_cons progress]
      refine List.forall_mem_cons.mpr ⟨?_, ih _⟩
      rintro rfl
      exact progress.allowed

/-- All requests of a coherent session fit: the labels that its filters add are there. -/
theorem transcript_fits (tags : TagTable) (uses : List (Mode × Use)) {session : Session}
    (coherent : session.Coherent) :
    session.account.Always Account.Fits ((transcript tags uses session).flatMap (·.requests)) := by
  induction uses generalizing session with
  | nil => trivial
  | cons use rest ih =>
      obtain ⟨mode, use⟩ := use
      obtain ⟨calls, progress⟩ := use.perform_progress mode tags session
      obtain ⟨coherent', fits⟩ := progress.coherent coherent
      rw [transcript_cons progress, List.flatMap_cons, Account.always_append, ← progress.replay]
      exact ⟨fits, ih coherent'⟩

/-! ## Sessions that real activities cannot tell apart -/

/-- Two accounts that differ only in the requests for labels that they got or have still to get,
of which none fails. -/
structure Account.Alike (first second : Account) : Prop where
  labels : first.labels = second.labels
  labelFaults : first.labelFaults = second.labelFaults
  filterFaults : first.filterFaults = second.filterFaults
  labelsCreated : first.labelsCreated = second.labelsCreated
  filtersCreated : first.filtersCreated = second.filtersCreated
  firstSilent : Silent first.listFaults
  secondSilent : Silent second.listFaults

namespace Account.Alike

variable {first second : Account}

theorem refl {account : Account} (silent : Silent account.listFaults) : account.Alike account :=
  ⟨rfl, rfl, rfl, rfl, rfl, silent, silent⟩

theorem nextLabel (alike : first.Alike second) (name : String) :
    first.nextLabel name = second.nextLabel name := by
  rw [Account.nextLabel, Account.nextLabel, alike.labelsCreated]

/-- They stay alike when both get the same request. -/
theorem after (alike : first.Alike second) (call : Call) :
    (first.after call).Alike (second.after call) := by
  obtain ⟨labels, labelFaults, filterFaults, labelsCreated, filtersCreated, silent, silent'⟩ :=
    alike
  cases call with
  | listLabels =>
      simp only [Account.after, Account.listLabels, silent.nextFault, silent'.nextFault]
      exact ⟨labels, labelFaults, filterFaults, labelsCreated, filtersCreated,
        silent.tail, silent'.tail⟩
  | createLabel name =>
      simp only [Account.after, Account.createLabel, ← labelFaults]
      cases MailFilters.nextFault first.labelFaults with
      | some fault =>
          exact ⟨labels, by rw [labelFaults], filterFaults, labelsCreated, filtersCreated,
            silent, silent'⟩
      | none =>
          exact ⟨by simp [labels, Account.nextLabel, labelsCreated], by rw [labelFaults],
            filterFaults, by simp [labelsCreated], filtersCreated, silent, silent'⟩
  | createFilter filter =>
      simp only [Account.after, Account.createFilter, ← filterFaults]
      cases MailFilters.nextFault first.filterFaults with
      | some fault =>
          exact ⟨labels, labelFaults, by rw [filterFaults], labelsCreated, filtersCreated,
            silent, silent'⟩
      | none =>
          exact ⟨labels, labelFaults, by rw [filterFaults], labelsCreated,
            by simp [filtersCreated], silent, silent'⟩

/-- One of them may get more requests for labels. -/
theorem behind_listing (alike : first.Alike second) {calls : List Call}
    (looks : ∀ call ∈ calls, call = .listLabels) : (first.afterAll calls).Alike second := by
  induction calls generalizing first with
  | nil => exact alike
  | cons call rest ih =>
      obtain ⟨rfl, others⟩ := List.forall_mem_cons.mp looks
      refine ih ?_ others
      obtain ⟨labels, labelFaults, filterFaults, labelsCreated, filtersCreated, silent, silent'⟩ :=
        alike
      simp only [Account.after, Account.listLabels, silent.nextFault]
      exact ⟨labels, labelFaults, filterFaults, labelsCreated, filtersCreated, silent.tail, silent'⟩

end Account.Alike

/-- Two sessions that real activities cannot tell apart. -/
structure Session.Alike (first second : Session) : Prop where
  account : first.account.Alike second.account
  known : first.known .real = second.known .real

/-- A dry activity leads to a session like the one that it started in. -/
theorem Session.Alike.behind_dry {before after second : Session} {calls : List Call}
    (alike : before.Alike second) (progress : Progress .dry before after calls) :
    after.Alike second where
  account := progress.replay ▸ alike.account.behind_listing progress.allowed
  known := (progress.apart .real (by simp)).trans alike.known

/-! ## Activities that do the same in sessions that are alike -/

/-- In sessions that are alike, an activity ends in the same way and makes the same requests, and
the sessions behind it are alike. -/
def Task.Unaware (task : Task ε α) : Prop :=
  ∀ first second : Session, first.Alike second →
    ∃ outcome first' second' calls,
      task first = (outcome, first') ∧ task second = (outcome, second') ∧ first'.Alike second' ∧
        first'.account.calls = first.account.calls ++ calls ∧
        second'.account.calls = second.account.calls ++ calls

namespace Task.Unaware

theorem done (value : α) : (Task.done value : Task ε α).Unaware := fun first second alike =>
  ⟨.ok value, first, second, [], rfl, rfl, alike, by simp, by simp⟩

theorem fail (cause : ε) : (Task.fail cause : Task ε α).Unaware := fun first second alike =>
  ⟨.error cause, first, second, [], rfl, rfl, alike, by simp, by simp⟩

theorem conclude {task : Task ε α} {next : Except ε α → Task δ β} (front : task.Unaware)
    (back : ∀ outcome, (next outcome).Unaware) : (task.conclude next).Unaware := by
  intro first second alike
  obtain ⟨outcome, first', second', xs, ran, ran', alike', grown, grown'⟩ :=
    front first second alike
  obtain ⟨result, first'', second'', ys, went, went', alike'', more, more'⟩ :=
    back outcome first' second' alike'
  refine ⟨result, first'', second'', xs ++ ys, (Task.conclude_of_run ran).trans went,
    (Task.conclude_of_run ran').trans went', alike'', ?_, ?_⟩
  · rw [more, grown, List.append_assoc]
  · rw [more', grown', List.append_assoc]

theorem bind {task : Task ε α} {next : α → Task ε β} (front : task.Unaware)
    (back : ∀ value, (next value).Unaware) : (task >>= next).Unaware := by
  rw [Task.bind_eq_conclude]
  refine front.conclude ?_
  rintro (cause | value)
  · exact .fail cause
  · exact back value

theorem mapFailure {task : Task ε α} (unaware : task.Unaware) (tell : ε → δ) :
    (task.mapFailure tell).Unaware := by
  refine unaware.conclude ?_
  rintro (cause | value)
  · exact .fail (tell cause)
  · exact .done value

/-- A change that keeps the account, and what sessions that are alike have in common. -/
theorem change {edit : Session → Session}
    (account : ∀ session, (edit session).account = session.account)
    (known : ∀ first second : Session, first.known .real = second.known .real →
      (edit first).known .real = (edit second).known .real) :
    (Task.change edit : Task ε Unit).Unaware := by
  intro first second alike
  refine ⟨.ok (), edit first, edit second, [], rfl, rfl, ⟨?_, known _ _ alike.known⟩, ?_, ?_⟩
  · rw [account, account]
    exact alike.account
  · rw [account, List.append_nil]
  · rw [account, List.append_nil]

theorem note (level : LogLevel) (text : String) : (Task.note level text : Task ε Unit).Unaware :=
  .change (fun _ => rfl) fun _ _ same => same

theorem request {ask : Account → Except Fault α × Account} (call : Call)
    (asks : ∀ account, (ask account).2 = account.after call)
    (answers : ∀ first second : Account, first.Alike second → (ask first).1 = (ask second).1) :
    (Task.request ask).Unaware := by
  intro first second alike
  refine ⟨(ask first.account).1, { first with account := (ask first.account).2 },
    { second with account := (ask second.account).2 }, [call], rfl, ?_, ⟨?_, alike.known⟩, ?_, ?_⟩
  · rw [answers _ _ alike.account]
    rfl
  · rw [asks, asks]
    exact alike.account.after call
  · rw [asks, Account.after_calls]
  · rw [asks, Account.after_calls]

theorem requestOrNote {ask : Account → Except Fault α × Account} {describe : Fault → String}
    (unaware : (Task.request ask).Unaware) : (Task.requestOrNote ask describe).Unaware := by
  refine unaware.conclude ?_
  rintro (fault | value)
  · exact .bind (.note _ _) fun _ => .fail fault
  · exact .done value

end Task.Unaware

/-! ## Real activities -/

namespace Directory

theorem labels_unaware : (labels .real).Unaware := by
  intro first second alike
  cases knows : first.known .real with
  | some known =>
      exact ⟨.ok known, first, second, [], labels_known knows,
        labels_known (alike.known.symm.trans knows), alike, by simp, by simp⟩
  | none =>
      have ran := labels_listed knows alike.account.firstSilent.nextFault
      have ran' := labels_listed (alike.known.symm.trans knows)
        alike.account.secondSilent.nextFault
      rw [← alike.account.labels] at ran'
      exact ⟨_, _, _, [.listLabels], ran, ran', ⟨alike.account.after .listLabels, rfl⟩,
        Account.after_calls _ _, Account.after_calls _ _⟩

theorem find_unaware (path : String) (caseSensitive : Bool) :
    (find .real path caseSensitive).Unaware := .bind labels_unaware fun _ => .done _

theorem createLabel_unaware (name : String) : (Task.request (·.createLabel name)).Unaware := by
  refine .request (.createLabel name) (fun _ => rfl) ?_
  intro first second alike
  rw [Account.createLabel_fst, Account.createLabel_fst, Account.faultOf, Account.faultOf,
    alike.labelFaults, alike.nextLabel]

theorem remember_unaware (label : Label) : (remember .real label : Task ε Unit).Unaware := by
  refine .change ?_ ?_
  · intro session
    cases session.known .real <;> rfl
  · intro first second same
    rw [same]
    cases second.known .real with
    | none => exact same
    | some known => rfl

theorem create_unaware (name : String) : (create .real name).Unaware := by
  have made : (makeLabel .real name).Unaware :=
    .bind (createLabel_unaware name).requestOrNote fun _ => .bind (.note _ _) fun _ => .done _
  exact made.bind fun label => .bind (remember_unaware label) fun _ => .done _

theorem ensure_unaware (path : String) : (ensure .real path).Unaware := by
  refine .bind (find_unaware path false) ?_
  rintro (_ | id)
  · exact create_unaware path
  · exact .done id

theorem ensureAll_unaware (last : String) (paths : List String) :
    (ensureAll .real last paths).Unaware := by
  induction paths generalizing last with
  | nil => exact .done last
  | cons path rest ih => exact .bind (ensure_unaware path) ih

theorem acquire_unaware (path : String) (caseSensitive : Bool) :
    (acquire .real path caseSensitive).Unaware := by
  refine .bind (find_unaware path caseSensitive) ?_
  rintro (_ | id)
  · exact ensureAll_unaware "" (levels path)
  · exact .done id

theorem Lookup.perform_unaware (lookup : Lookup) : (lookup.perform .real).Unaware := by
  cases lookup with
  | find path caseSensitive => exact find_unaware path caseSensitive
  | acquire path caseSensitive => exact .bind (acquire_unaware path caseSensitive) fun _ => .done _

end Directory

theorem carryOut_unaware (rule : Rule) (effect : Effect) (steps : List Step) :
    (carryOut .real rule effect steps).Unaware := by
  induction steps generalizing effect with
  | nil => exact .done effect
  | cons step rest ih =>
      cases step with
      | file path =>
          exact .bind ((Directory.acquire_unaware path false).mapFailure _) fun id => ih _
      | skip action => exact .bind (.note _ _) fun _ => ih effect
      | _ => exact ih _

theorem Rule.filter_unaware (rule : Rule) (tags : TagTable) : (rule.filter .real tags).Unaware := by
  rw [Rule.filter]
  cases rule.query with
  | error obstacle => exact .fail _
  | ok query =>
      have effect : (rule.effect .real tags).Unaware := by
        refine .bind (carryOut_unaware rule {} _) fun effect => ?_
        cases (Plan.ofRule tags rule).obstacle with
        | some obstacle => exact .fail _
        | none => exact .done _
      exact effect.bind fun _ => .bind (.note _ _) fun _ => .done _

theorem RuleFilter.submit_unaware (made : RuleFilter) : made.submit.Unaware := by
  have asked : (Task.request (·.createFilter made.filter)).Unaware := by
    refine .request (.createFilter made.filter) (fun _ => rfl) ?_
    intro first second alike
    simp only [Account.createFilter, alike.filterFaults, alike.filtersCreated]
    cases nextFault second.filterFaults <;> rfl
  refine asked.conclude ?_
  rintro (fault | id)
  · dsimp only
    cases fault.obstacle? made.rule with
    | some obstacle => exact .fail _
    | none => exact .bind (.note _ _) fun _ => .fail _
  · exact .done id

theorem Rule.install_unaware (rule : Rule) (tags : TagTable) :
    (rule.install .real tags).Unaware :=
  .bind (rule.filter_unaware tags) fun made =>
    .bind made.submit_unaware fun _ => .bind (.note _ _) fun _ => .done made

theorem installEach_unaware (tags : TagTable) (rules : List Rule) :
    (installEach .real tags rules).Unaware := by
  have handled (rule : Rule) : (markHandled rule : Task Failure Unit).Unaware :=
    .change (fun _ => rfl) fun _ _ same => same
  induction rules with
  | nil => exact .done []
  | cons rule rest ih =>
      rw [installEach]
      split
      · refine (rule.install_unaware tags).conclude ?_
        rintro ((fault | rejection | cause) | made)
        · exact .fail _
        · exact .bind (.note _ _) fun _ => .bind (handled rule) fun _ => .bind ih fun _ => .done _
        · exact .fail _
        · exact .bind (handled rule) fun _ => ih
      · exact ih

/-- A real use does the same in sessions that are alike. -/
theorem Use.perform_unaware (tags : TagTable) (use : Use) : (use.perform .real tags).Unaware := by
  cases use with
  | install rule => exact .bind (rule.install_unaware tags) fun _ => .done _
  | installAll set =>
      refine .bind ?_ fun _ => .done _
      cases set with
      | none => exact .done []
      | some set => exact installEach_unaware tags set.rules
  | consult lookup => exact .bind (lookup.perform_unaware.mapFailure _) fun _ => .done _

/-! ## Separation -/

theorem transcript_real (tags : TagTable) (uses : List (Mode × Use)) {first second : Session}
    (alike : first.Alike second) :
    (transcript tags uses first).filter (·.mode = .real) =
      transcript tags (uses.filter (·.1 = .real)) second := by
  induction uses generalizing first second with
  | nil => rfl
  | cons use rest ih =>
      obtain ⟨mode, use⟩ := use
      cases mode with
      | dry =>
          -- the first run does more here, but its session stays like the other one
          obtain ⟨calls, progress⟩ := use.perform_progress .dry tags first
          exact ih (alike.behind_dry progress)
      | real =>
          obtain ⟨outcome, first', second', calls, ran, ran', alike', grown, grown'⟩ :=
            use.perform_unaware tags first second alike
          simp [transcript, ran, ran', grown, grown', ih alike']

/-- **Separation.** If listing labels does not fail, the dry uses of a writer only look, and the
real ones show what they would have shown without them; the labels that a filter adds are there. -/
theorem transcript_separate (tags : TagTable) {account : Account}
    (silent : Silent account.listFaults) (uses : List (Mode × Use)) :
    let shown := transcript tags uses { account }
    (∀ entry ∈ shown, entry.mode = .dry → ∀ call ∈ entry.requests, call = .listLabels) ∧
      shown.filter (·.mode = .real) =
        transcript tags (uses.filter (·.1 = .real)) { account } ∧
      account.Always Account.Fits (shown.flatMap (·.requests)) := by
  have start : Session.Coherent { account } := by rintro labels ⟨⟩
  exact ⟨transcript_dry tags uses _, transcript_real tags uses ⟨.refl silent, rfl⟩,
    transcript_fits tags uses start⟩

/-- A rule that tags the messages of one sender. -/
def tagger : Rule where
  name := "Tag"
  enabled := true
  criteria := { conditions := [⟨.and, .field .sender, .contains, "friend@example.com"⟩] }
  actions := [.addTag "Friends"]

/-- A label that a dry run has announced is created all the same, and the filter adds it by the id
that the account gives it. -/
theorem transcript_separate_tagger :
    let account : Account := { listFaults := [none] }
    let uses : List (Mode × Use) := [(.dry, .install tagger), (.real, .install tagger)]
    Silent account.listFaults ∧
      ((transcript [] uses { account }).filter (·.mode = .real)).map (·.requests) =
        [[.listLabels, .createLabel "Friends",
          .createFilter ⟨"from:\"friend@example.com\"", { addLabels := ["new_1"] }⟩]] := by
  intro account uses
  have silent : Silent account.listFaults := by simp [Silent, account]
  obtain ⟨_, real, _⟩ := transcript_separate [] silent uses
  rw [real]
  exact ⟨silent, by decide +kernel⟩

end MailFilters
