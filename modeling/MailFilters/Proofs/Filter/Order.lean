import MailFilters.Proofs.Account.Coherence
import MailFilters.Proofs.Filter.Verdict

/-!
# The order of rules

Which labels are made for some rules depends on their order, as a label that is there is used in
whatever letter case it has.  Up to letter case it does not.

* **`Rule.filed`** — the paths that are ensured for a rule, whatever becomes of it.
* **`Needed`** — the names in lower case of the labels that paths need.
* **`Filed`** — some names are those from the start and the needed ones; ensuring one more path
  keeps this (`Filed.step`), and so do rules (`filtersOf_files`).
* **`filtersOf_order`** — rules in another order ask for labels of the same names in lower case.
-/

namespace MailFilters

/-- The paths that are ensured for a rule: those of its plan, if its criteria have a search. -/
def Rule.filed (rule : Rule) (tags : TagTable) : List String :=
  match rule.query with
  | .error _ => []
  | .ok _ => (Plan.ofRule tags rule).steps.filterMap Step.path?

/-! ## Needed labels -/

section Needed

open Directory (levels missing)

/-- The names in lower case of the labels that paths need beside some names: all levels of each path
that is not there. -/
def Needed (base paths : List String) (name : String) : Prop :=
  name ∉ base.map Text.lowered ∧
    ∃ path ∈ paths, Text.lowered path ∉ base.map Text.lowered ∧ name ∈ levels (Text.lowered path)

/-- Behind some names are those of labels that paths need. -/
def Filed (base paths names : List String) : Prop :=
  ∃ made, names = base ++ made ∧
    ∀ name, name ∈ made.map Text.lowered ↔ Needed base paths name

variable {base paths names : List String}

theorem Filed.start (base : List String) : Filed base [] base :=
  ⟨[], (List.append_nil _).symm, by simp [Needed]⟩

theorem needed_append {more : List String} {name : String} :
    Needed base (paths ++ more) name ↔ Needed base paths name ∨ Needed base more name := by
  simp only [Needed, List.mem_append, or_and_right, exists_or, and_or_left]

/-- What a path needs that is needed itself is needed. -/
theorem Needed.trans {path name : String} (needed : Needed base paths (Text.lowered path))
    (own : Needed base [path] name) : Needed base paths name := by
  obtain ⟨_, whole, member, absent, level⟩ := needed
  obtain ⟨new, other, single, _, upper⟩ := own
  rw [List.mem_singleton.mp single] at upper
  exact ⟨new, whole, member, absent, Directory.levels_trans level upper⟩

/-- The labels that one more path needs are there or missing. -/
theorem Filed.step (filed : Filed base paths names) (path : String) :
    Filed base (paths ++ [path]) (names ++ missing path false names) := by
  obtain ⟨made, rfl, closed⟩ := filed
  refine ⟨made ++ missing path false (base ++ made), List.append_assoc .., fun name => ?_⟩
  have single : Needed base [path] name ↔
      name ∉ base.map Text.lowered ∧ Text.lowered path ∉ base.map Text.lowered ∧
        name ∈ levels (Text.lowered path) := by simp [Needed]
  rw [List.map_append, List.mem_append, Directory.mem_missing_lowered, needed_append, closed name,
    List.map_append, List.mem_append, List.mem_append, closed, closed]
  constructor
  · intro there
    rcases there with before | ⟨outside, new, level⟩
    · exact .inl before
    · exact .inr (single.mpr ⟨fun inside => new (.inl inside), fun inside => outside (.inl inside),
        level⟩)
  · intro needed
    rcases needed with before | own
    · exact .inl before
    · by_cases whole : Needed base paths (Text.lowered path)
      · -- the path was made as a level of another one, and its levels with it
        exact .inl (whole.trans own)
      · by_cases before : Needed base paths name
        · exact .inl before
        · obtain ⟨new, outside, level⟩ := single.mp own
          exact .inr ⟨not_or.mpr ⟨outside, whole⟩, not_or.mpr ⟨new, before⟩, level⟩

end Needed

/-! ## Runs without faults -/

section Runs

variable {base paths : List String} {session : Session}

theorem acquire_files {mode : Mode} (filed : Filed base paths (session.names mode))
    (path : String) :
    Works mode id session (Directory.acquire mode path false session)
      fun _ after => Filed base (paths ++ [path]) (after.names mode) := by
  refine ⟨_, (Directory.acquire_makes mode path false session).withGains.imp ?_⟩
  rintro id after ⟨_, gains⟩
  rw [gains.names_eq]
  exact filed.step path

theorem carryOut_files {mode : Mode} (rule : Rule) (steps : List Step) (effect : Effect)
    (filed : Filed base paths (session.names mode)) :
    Works mode Failure.request session (carryOut mode rule effect steps session)
      fun _ after => Filed base (paths ++ steps.filterMap Step.path?) (after.names mode) := by
  induction steps generalizing effect session paths with
  | nil => exact .done (by simpa using filed)
  | cons step rest ih =>
      cases step with
      | file path =>
          rw [carryOut]
          refine (acquire_files filed path).mapFailure.bind ?_
          intro id middle filed'
          have others := ih (effect.adding id) filed'
          rw [List.append_assoc] at others
          exact others
      | add id => exact ih (effect.adding id) filed
      | remove id => exact ih (effect.removing id) filed
      | forward recipient => exact ih { effect with forward := some recipient } filed
      | skip action =>
          rw [carryOut]
          refine (noteLeftOut_works mode rule action session).bind ?_
          rintro _ _ ⟨log, rfl⟩
          exact ih effect filed

/-- Making the filter of a rule ensures its paths, whether the rule is rejected or not. -/
theorem Rule.filter_files (rule : Rule) (tags : TagTable) (serves : session.Serves)
    (filed : Filed base paths (session.names .real)) :
    Filed base (paths ++ rule.filed tags) ((rule.filter .real tags session).2.names .real) := by
  cases searched : rule.query with
  | error obstacle =>
      rw [Rule.filter_unsearched searched, Rule.filed, searched]
      simpa using filed
  | ok query =>
      obtain ⟨effect, after, _, ran, _, _, _, filed'⟩ :=
        (carryOut_files rule (Plan.ofRule tags rule).steps {} filed).gives serves
      rw [Rule.filed, searched]
      cases stops : (Plan.ofRule tags rule).obstacle with
      | some obstacle =>
          rw [Rule.filter_obstructed searched ran stops]
          exact filed'
      | none =>
          rw [Rule.filter_made searched ran stops]
          exact filed'

theorem filtersOf_files (tags : TagTable) (rules : List Rule) (serves : session.Serves)
    (filed : Filed base paths (session.names .real)) :
    ∃ result after calls, filtersOf .real tags rules session = (.ok result, after) ∧
      Progress .real session after calls ∧
      Filed base (paths ++ rules.flatMap (·.filed tags)) (after.names .real) := by
  induction rules generalizing session paths with
  | nil => exact ⟨([], []), session, [], rfl, .refl session, by simpa using filed⟩
  | cons rule rest ih =>
      obtain ⟨serves', yields⟩ := rule.filter_yields .real tags serves
      obtain ⟨xs, progress, _⟩ := rule.filter_compiles .real tags session
      have filed' := rule.filter_files tags serves filed
      cases ran : rule.filter .real tags session with
      | mk outcome middle =>
          rw [ran] at serves' yields progress filed'
          cases yields with
          | @made filter _ =>
              obtain ⟨result, after, ys, others, progress', filed''⟩ := ih serves' filed'
              rw [List.append_assoc] at filed''
              refine ⟨(⟨rule, filter⟩ :: result.1, result.2), after, xs ++ ys, ?_,
                progress.trans progress', filed''⟩
              rw [filtersOf_made ran, others]
              rfl
          | @rejected obstacle _ =>
              -- the note that the rule is set aside changes nothing but the log
              let noted := middle.noted rule ⟨obstacle, some rule⟩
              have serves'' : noted.Serves := ⟨serves'.lists, serves'.creates⟩
              obtain ⟨result, after, ys, others, progress', filed''⟩ := ih serves'' filed'
              rw [List.append_assoc] at filed''
              refine ⟨(result.1, ⟨obstacle, some rule⟩ :: result.2), after, xs ++ ys, ?_,
                (progress.noted _ _).trans progress', filed''⟩
              rw [filtersOf_rejected ran, others]
              rfl

end Runs

/-! ## Requests -/

/-- The names in lower case of the labels that requests ask for. -/
def requestedNames (calls : List Call) : List String :=
  (calls.filterMap (·.labelName?)).map Text.lowered

/-- The names of the labels of an account, in lower case. -/
def Account.loweredNames (account : Account) : List String :=
  account.labels.map fun label => Text.lowered label.name

theorem created_lowered {account : Account} (silent : Silent account.labelFaults)
    (calls : List Call) :
    (account.created calls).map (fun label => Text.lowered label.name) = requestedNames calls := by
  rw [requestedNames, ← Account.created_names silent, List.map_map]
  rfl

/-- **What rules ask for.** Without faults the rules ask for the labels that their paths need, each
of them once and in some letter case, and then the account has them. -/
theorem filtersOf_requests (tags : TagTable) (rules : List Rule) {account : Account}
    (serves : Session.Serves { account }) :
    ∃ result after calls, filtersOf .real tags rules { account } = (.ok result, after) ∧
      after.account.calls = account.calls ++ calls ∧
      after.account.loweredNames = account.loweredNames ++ requestedNames calls ∧
      (requestedNames calls).Nodup ∧
      ∀ name, name ∈ requestedNames calls ↔
        Needed (account.labels.map (·.name)) (rules.flatMap (·.filed tags)) name := by
  have start : Session.Coherent { account } := by rintro labels ⟨⟩
  obtain ⟨result, after, calls, ran, progress, made, grown, needed⟩ :=
    filtersOf_files tags rules serves (.start _)
  obtain ⟨coherent, fits⟩ := progress.coherent start
  have labels : after.account.labels = account.labels ++ account.created calls := by
    rw [progress.replay, Account.afterAll_labels]
  refine ⟨result, after, calls, ran, by rw [progress.replay, Account.afterAll_calls], ?_, ?_, ?_⟩
  · rw [Account.loweredNames, labels, List.map_append, created_lowered serves.creates]
    rfl
  · rw [← created_lowered serves.creates, List.Nodup, List.pairwise_map]
    exact (Directory.created_apart fits).imp fun apart same => by
      simp [Directory.Apart, Text.sameLetters, same] at apart
  · rw [Session.names, Session.names, coherent.directory, start.directory, labels,
      List.map_append] at grown
    have same := List.append_cancel_left grown
    rw [requestedNames, ← Account.created_names serves.creates, same]
    exact needed

/-- **Order.** Without faults rules in another order ask for labels of the same names up to letter
case, each of them once; so accounts that had the same labels have equally many in the end, and
those of the same names up to letter case. -/
theorem filtersOf_order (tags : TagTable) {rules others : List Rule} (perm : rules.Perm others)
    {first second : Account} (serves : Session.Serves { account := first })
    (serves' : Session.Serves { account := second }) (labels : first.labels = second.labels) :
    ∃ result result' after after' calls calls',
      filtersOf .real tags rules { account := first } = (.ok result, after) ∧
      filtersOf .real tags others { account := second } = (.ok result', after') ∧
      after.account.calls = first.calls ++ calls ∧
      after'.account.calls = second.calls ++ calls' ∧
      (requestedNames calls).Perm (requestedNames calls') ∧ (requestedNames calls).Nodup ∧
      after.account.labels.length = after'.account.labels.length ∧
      ∀ name, name ∈ after.account.loweredNames ↔ name ∈ after'.account.loweredNames := by
  obtain ⟨result, after, calls, ran, recorded, grown, distinct, needed⟩ :=
    filtersOf_requests tags rules serves
  obtain ⟨result', after', calls', ran', recorded', grown', distinct', needed'⟩ :=
    filtersOf_requests tags others serves'
  have paths : ∀ path, path ∈ rules.flatMap (·.filed tags) ↔ path ∈ others.flatMap (·.filed tags) :=
    fun path => (perm.flatMap_right _).mem_iff
  have same : (requestedNames calls).Perm (requestedNames calls') := by
    refine (List.perm_ext_iff_of_nodup distinct distinct').mpr fun name => ?_
    rw [needed, needed', labels]
    simp only [Needed, paths]
  have start : first.loweredNames = second.loweredNames := by
    rw [Account.loweredNames, labels, Account.loweredNames]
  have whole : after.account.loweredNames.Perm after'.account.loweredNames := by
    rw [grown, grown', start]
    exact same.append_left _
  refine ⟨result, result', after, after', calls, calls', ran, ran', recorded, recorded', same,
    distinct, ?_, fun name => whole.mem_iff⟩
  simpa [Account.loweredNames] using whole.length_eq

/-- Two rules with paths that meet in different letter cases, of which one is rejected: the order
decides which spelling is asked for. -/
theorem filtersOf_order_nested :
    let account : Account := { labels := [⟨"Label_7", "work"⟩] }
    let subject : Condition := ⟨.and, .field .subject, .contains, "x"⟩
    let upper : Rule :=
      { name := "a", criteria := { conditions := [subject] }
        actions := [.copyTo ⟨"h", none, "u", ["Work", "2024"]⟩] }
    let lower : Rule :=
      { name := "b", criteria := { conditions := [subject] }
        actions := [.moveTo ⟨"h", none, "u", ["WORK", "2024", "Q"]⟩, .junkScore 7] }
    ∃ result result' after after' calls calls',
      filtersOf .real TagTable.initial [lower, upper] { account } = (.ok result, after) ∧
      filtersOf .real TagTable.initial [upper, lower] { account } = (.ok result', after') ∧
      calls = [.listLabels, .createLabel "WORK/2024", .createLabel "WORK/2024/Q"] ∧
      calls' = [.listLabels, .createLabel "Work/2024", .createLabel "WORK/2024/Q"] ∧
      (requestedNames calls).Perm (requestedNames calls') ∧ (requestedNames calls).Nodup ∧
      after.account.labels.length = after'.account.labels.length := by
  intro account subject upper lower
  have serves : Session.Serves { account } := ⟨by simp [Silent, account], by simp [Silent, account]⟩
  have asked : (filtersOf .real TagTable.initial [lower, upper] { account }).2.account.calls =
      [.listLabels, .createLabel "WORK/2024", .createLabel "WORK/2024/Q"] := by decide +kernel
  have asked' : (filtersOf .real TagTable.initial [upper, lower] { account }).2.account.calls =
      [.listLabels, .createLabel "Work/2024", .createLabel "WORK/2024/Q"] := by decide +kernel
  obtain ⟨result, result', after, after', calls, calls', ran, ran', recorded, recorded', same,
    distinct, equal, _⟩ :=
    filtersOf_order TagTable.initial (List.Perm.swap upper lower []) serves serves rfl
  rw [ran] at asked
  rw [ran'] at asked'
  exact ⟨result, result', after, after', calls, calls', ran, ran', recorded.symm.trans asked,
    recorded'.symm.trans asked', same, distinct, equal⟩

end MailFilters
