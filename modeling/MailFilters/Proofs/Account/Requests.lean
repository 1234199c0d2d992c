import MailFilters.Account.Basic

/-!
# Requests that follow each other

What an account answers depends on its labels and on its scripts of faults only, so the requests
that it got tell how it came to be what it is.

* **`Call.IsForLabels`** — whether a request is one for labels.
* **`Silent`** — a script without faults.
* **`Account.after`**, **`Account.afterAll`** — an account after a request, and after several.
* **`Account.faultOf`** — the failure that a request meets.
* **`Account.created`** — the labels that a sequence of requests makes (`afterAll_labels`); without
  faults these are the ones that it asks for (`created_names`).
* **`Account.Always`** — every request of a sequence has a property, seen at the account that it
  is made to (`always_iff`).
* **`Account.Grants`**, **`Account.Refuses`** — a sequence of which all requests succeed, and one
  that ends with its first failure; **`Account.Answers`** — an activity that ends accordingly.
-/

namespace MailFilters

/-- The name of the label that a request asks for. -/
def Call.labelName? : Call → Option String
  | .createLabel name => some name
  | .listLabels | .createFilter _ => none

/-- The filter that a request asks for. -/
def Call.filter? : Call → Option Filter
  | .createFilter filter => some filter
  | .listLabels | .createLabel _ => none

/-- Whether a request is one for labels. -/
def Call.IsForLabels : Call → Prop
  | .listLabels | .createLabel _ => True
  | .createFilter _ => False

theorem Call.IsForLabels.filter? {call : Call} (forLabels : call.IsForLabels) :
    call.filter? = none := by
  cases call with
  | listLabels => rfl
  | createLabel name => rfl
  | createFilter filter => exact forLabels.elim

/-- A script that lets all requests succeed. -/
def Silent (script : List (Option Fault)) : Prop := ∀ outcome ∈ script, outcome = none

theorem Silent.nextFault {script : List (Option Fault)} (silent : Silent script) :
    nextFault script = none := by
  cases script with
  | nil => rfl
  | cons outcome rest => exact silent outcome List.mem_cons_self

theorem Silent.tail {script : List (Option Fault)} (silent : Silent script) :
    Silent script.tail := fun outcome member => silent outcome (List.mem_of_mem_tail member)

namespace Account

/-- The failure that a request meets, if it is the next one. -/
def faultOf (account : Account) : Call → Option Fault
  | .listLabels => nextFault account.listFaults
  | .createLabel _ => nextFault account.labelFaults
  | .createFilter _ => nextFault account.filterFaults

/-- An account after a request, whether it succeeds or fails. -/
def after (account : Account) : Call → Account
  | .listLabels => account.listLabels.2
  | .createLabel name => (account.createLabel name).2
  | .createFilter filter => (account.createFilter filter).2

/-- An account after several requests. -/
def afterAll (account : Account) (calls : List Call) : Account := calls.foldl after account

@[simp] theorem afterAll_nil (account : Account) : account.afterAll [] = account := rfl

@[simp] theorem afterAll_cons (account : Account) (call : Call) (calls : List Call) :
    account.afterAll (call :: calls) = (account.after call).afterAll calls := rfl

@[simp] theorem afterAll_append (account : Account) (first second : List Call) :
    account.afterAll (first ++ second) = (account.afterAll first).afterAll second :=
  List.foldl_append

/-! ## One request -/

theorem listLabels_fst (account : Account) :
    account.listLabels.1 =
      match account.faultOf .listLabels with
      | some fault => .error fault
      | none => .ok account.labels := by
  rw [faultOf, listLabels]
  cases nextFault account.listFaults <;> rfl

theorem createLabel_fst (account : Account) (name : String) :
    (account.createLabel name).1 =
      match account.faultOf (.createLabel name) with
      | some fault => .error fault
      | none => .ok (account.nextLabel name) := by
  rw [faultOf, createLabel]
  cases nextFault account.labelFaults <;> rfl

/-- A request for a filter answers with the failure that it meets, or with an id. -/
theorem createFilter_fst (account : Account) (filter : Filter) :
    ∃ id, (account.createFilter filter).1 =
      match account.faultOf (.createFilter filter) with
      | some fault => .error fault
      | none => .ok id := by
  rw [faultOf, createFilter]
  cases nextFault account.filterFaults with
  | some fault => exact ⟨"", rfl⟩
  | none => exact ⟨_, rfl⟩

/-- The labels that a request adds to an account. -/
def newLabels (account : Account) : Call → List Label
  | .createLabel name =>
    if (nextFault account.labelFaults).isNone then [account.nextLabel name] else []
  | .listLabels | .createFilter _ => []

theorem newLabels_refused {account : Account} {name : String} {fault : Fault}
    (failed : account.faultOf (.createLabel name) = some fault) :
    account.newLabels (.createLabel name) = [] := by
  rw [faultOf] at failed
  simp [newLabels, failed]

theorem newLabels_granted {account : Account} {name : String}
    (granted : account.faultOf (.createLabel name) = none) :
    account.newLabels (.createLabel name) = [account.nextLabel name] := by
  rw [faultOf] at granted
  simp [newLabels, granted]

theorem after_labels (account : Account) (call : Call) :
    (account.after call).labels = account.labels ++ account.newLabels call := by
  cases call with
  | listLabels =>
      rw [after, listLabels]
      cases nextFault account.listFaults <;> simp [newLabels, record]
  | createLabel name =>
      rw [after, createLabel]
      cases scripted : nextFault account.labelFaults <;> simp [newLabels, record, scripted]
  | createFilter filter =>
      rw [after, createFilter]
      cases nextFault account.filterFaults <;> simp [newLabels, record]

/-- Every request is recorded. -/
theorem after_calls (account : Account) (call : Call) :
    (account.after call).calls = account.calls ++ [call] := by
  cases call with
  | listLabels =>
      rw [after, listLabels]
      cases nextFault account.listFaults <;> rfl
  | createLabel name =>
      rw [after, createLabel]
      cases nextFault account.labelFaults <;> rfl
  | createFilter filter =>
      rw [after, createFilter]
      cases nextFault account.filterFaults <;> rfl

theorem after_listFaults (account : Account) (call : Call) :
    (account.after call).listFaults =
      if call = .listLabels then account.listFaults.tail else account.listFaults := by
  cases call with
  | listLabels =>
      rw [after, listLabels]
      cases nextFault account.listFaults <;> simp
  | createLabel name =>
      rw [after, createLabel]
      cases nextFault account.labelFaults <;> simp [record]
  | createFilter filter =>
      rw [after, createFilter]
      cases nextFault account.filterFaults <;> simp [record]

theorem after_labelFaults (account : Account) (call : Call) :
    (account.after call).labelFaults = account.labelFaults ∨
      (account.after call).labelFaults = account.labelFaults.tail := by
  cases call with
  | listLabels =>
      rw [after, listLabels]
      cases nextFault account.listFaults <;> exact .inl rfl
  | createLabel name =>
      rw [after, createLabel]
      cases nextFault account.labelFaults <;> exact .inr rfl
  | createFilter filter =>
      rw [after, createFilter]
      cases nextFault account.filterFaults <;> exact .inl rfl

/-! ## Several requests -/

theorem afterAll_calls (account : Account) (calls : List Call) :
    (account.afterAll calls).calls = account.calls ++ calls := by
  induction calls generalizing account with
  | nil => simp
  | cons call rest ih => rw [afterAll_cons, ih, after_calls, List.append_assoc]; rfl

/-- The labels that requests make, one for each request for a label that succeeds. -/
def created : Account → List Call → List Label
  | _, [] => []
  | account, call :: rest => account.newLabels call ++ created (account.after call) rest

theorem afterAll_labels (account : Account) (calls : List Call) :
    (account.afterAll calls).labels = account.labels ++ account.created calls := by
  induction calls generalizing account with
  | nil => exact (List.append_nil _).symm
  | cons call rest ih => rw [afterAll_cons, ih, after_labels, created, List.append_assoc]

theorem created_of_looks {account : Account} {calls : List Call}
    (looks : ∀ call ∈ calls, call = .listLabels) : account.created calls = [] := by
  induction calls generalizing account with
  | nil => rfl
  | cons call rest ih =>
      obtain ⟨rfl, others⟩ := List.forall_mem_cons.mp looks
      exact ih others

/-- If no request for a label fails, the labels that are made are those that were asked for. -/
theorem created_names {account : Account} (silent : Silent account.labelFaults)
    (calls : List Call) :
    (account.created calls).map (·.name) = calls.filterMap (·.labelName?) := by
  induction calls generalizing account with
  | nil => rfl
  | cons call rest ih =>
      have silent' : Silent (account.after call).labelFaults := by
        rcases account.after_labelFaults call with same | tail
        · exact same ▸ silent
        · exact tail ▸ silent.tail
      rw [created, List.map_append, ih silent']
      cases call with
      | listLabels => rfl
      | createFilter filter => rfl
      | createLabel name =>
          rw [newLabels, silent.nextFault]
          rfl

/-- Every request of a sequence has a property, seen at the account that it is made to. -/
def Always (property : Account → Call → Prop) : Account → List Call → Prop
  | _, [] => True
  | account, call :: rest => property account call ∧ Always property (account.after call) rest

section Always

variable {property : Account → Call → Prop} {account : Account}

theorem always_append {first second : List Call} :
    Always property account (first ++ second) ↔
      Always property account first ∧ Always property (account.afterAll first) second := by
  induction first generalizing account with
  | nil => simp [Always]
  | cons call rest ih => simp only [List.cons_append, Always, afterAll_cons, ih, and_assoc]

/-- The requests of a sequence one by one, each with those that came before it. -/
theorem always_iff {calls : List Call} :
    Always property account calls ↔
      ∀ before call later, calls = before ++ call :: later →
        property (account.afterAll before) call := by
  constructor
  · rintro always before call later rfl
    exact (always_append.mp always).2.1
  · intro each
    induction calls generalizing account with
    | nil => trivial
    | cons call rest ih =>
        refine ⟨each [] call rest rfl, ih ?_⟩
        rintro before next later rfl
        exact each (call :: before) next later rfl

end Always

/-- All requests of a sequence succeed. -/
def Grants (account : Account) (calls : List Call) : Prop :=
  account.Always (fun now call => now.faultOf call = none) calls

/-- The last request of a sequence fails, and the others succeed. -/
def Refuses (account : Account) (calls : List Call) (fault : Fault) : Prop :=
  ∃ before call, calls = before ++ [call] ∧ account.Grants before ∧
    (account.afterAll before).faultOf call = some fault

/-- How the requests of an activity end: all succeed if it does, and otherwise the last one fails,
and the activity tells that failure as its own. -/
def Answers (account : Account) (calls : List Call) (tell : Fault → ε) :
    Except ε α → Prop
  | .ok _ => account.Grants calls
  | .error cause => ∃ fault, cause = tell fault ∧ account.Refuses calls fault

section Outcomes

variable {account : Account} {first second : List Call} {fault : Fault}

theorem grants_append :
    account.Grants (first ++ second) ↔
      account.Grants first ∧ (account.afterAll first).Grants second := always_append

theorem Refuses.append (granted : account.Grants first)
    (refused : (account.afterAll first).Refuses second fault) :
    account.Refuses (first ++ second) fault := by
  obtain ⟨before, call, rfl, granted', failed⟩ := refused
  refine ⟨first ++ before, call, (List.append_assoc ..).symm,
    grants_append.mpr ⟨granted, granted'⟩, ?_⟩
  rw [afterAll_append]
  exact failed

theorem Answers.append {tell : Fault → ε} {outcome : Except ε α} (granted : account.Grants first)
    (answers : (account.afterAll first).Answers second tell outcome) :
    account.Answers (first ++ second) tell outcome := by
  cases outcome with
  | ok value => exact grants_append.mpr ⟨granted, answers⟩
  | error cause =>
      obtain ⟨fault, told, refused⟩ := answers
      exact ⟨fault, told, refused.append granted⟩

theorem Refuses.single {call : Call} (failed : account.faultOf call = some fault) :
    account.Refuses [call] fault := ⟨[], call, rfl, trivial, failed⟩

end Outcomes

end Account

end MailFilters
