import MailFilters.Proofs.Account.Answers

/-!
# Trying again

A path can be ensured again after a failure, and in the end nothing is left of the failures.

* **`Task.retry`** — an activity that is tried again when it fails.
* **`Account.faults`** — the number of requests for labels that will fail; every failing attempt
  lowers it (`Account.Refuses.faults_lt`).
* **`acquire_resumes`** — ensuring a path again until it succeeds leaves what ensuring it once
  leaves in an account without faults.
-/

namespace MailFilters

/-! ## Attempts -/

/-- An activity that is tried again when it fails, at most a number of times. -/
def Task.retry (task : Task ε α) : Nat → Task ε α
  | 0 => task
  | more + 1 => task.conclude fun
    | .ok value => Task.done value
    | .error _ => Task.retry task more

namespace Task

variable {task : Task ε α} {before after : Session}

theorem retry_of_ok {value : α} (ran : task before = (.ok value, after)) (more : Nat) :
    task.retry more before = (.ok value, after) := by
  cases more with
  | zero => exact ran
  | succ more => simp [retry, conclude, ran, done]

theorem retry_of_error {cause : ε} (ran : task before = (.error cause, after)) (more : Nat) :
    task.retry (more + 1) before = task.retry more after := by
  simp [retry, conclude, ran]

end Task

/-! ## Faults that are left -/

/-- The number of faults in a script. -/
def faultCount (script : List (Option Fault)) : Nat := script.countP (·.isSome)

theorem faultCount_next (script : List (Option Fault)) :
    faultCount script = faultCount script.tail + if (nextFault script).isSome then 1 else 0 := by
  cases script with
  | nil => rfl
  | cons outcome rest => exact List.countP_cons

namespace Account

/-- The number of requests for labels that will fail. -/
def faults (account : Account) : Nat :=
  faultCount account.listFaults + faultCount account.labelFaults

/-- An account in which no request fails. -/
def withoutFaults (account : Account) : Account :=
  { account with listFaults := [], labelFaults := [], filterFaults := [] }

/-- A request lowers the number of faults by one if it is a request for labels and fails. -/
theorem after_faults (account : Account) {call : Call} (forLabels : call.IsForLabels) :
    account.faults =
      (account.after call).faults + if (account.faultOf call).isSome then 1 else 0 := by
  cases call with
  | listLabels =>
      rw [faults, faultCount_next account.listFaults, faultOf, after, listLabels]
      cases nextFault account.listFaults <;> simp [faults, record, Nat.add_right_comm]
  | createLabel name =>
      rw [faults, faultCount_next account.labelFaults, faultOf, after, createLabel]
      cases nextFault account.labelFaults <;> simp [faults, record, Nat.add_assoc]
  | createFilter filter => exact forLabels.elim

theorem afterAll_faults_le {account : Account} {calls : List Call}
    (forLabels : ∀ call ∈ calls, call.IsForLabels) :
    (account.afterAll calls).faults ≤ account.faults := by
  induction calls generalizing account with
  | nil => exact Nat.le_refl _
  | cons call rest ih =>
      obtain ⟨first, others⟩ := List.forall_mem_cons.mp forLabels
      have step := account.after_faults first
      have behind : ((account.after call).afterAll rest).faults ≤ (account.after call).faults :=
        ih others
      rw [afterAll_cons]
      omega

/-- A sequence of requests for labels that ends with a failure leaves fewer faults. -/
theorem Refuses.faults_lt {account : Account} {calls : List Call} {fault : Fault}
    (refused : account.Refuses calls fault) (forLabels : ∀ call ∈ calls, call.IsForLabels) :
    (account.afterAll calls).faults < account.faults := by
  obtain ⟨before, call, rfl, _, failed⟩ := refused
  obtain ⟨earlier, last⟩ := List.forall_mem_append.mp forLabels
  have front : (account.afterAll before).faults ≤ account.faults := afterAll_faults_le earlier
  have step := (account.afterAll before).after_faults (last call (by simp))
  rw [failed] at step
  simp only [afterAll_append, afterAll_cons, afterAll_nil, Option.isSome_some, if_true] at step ⊢
  omega

end Account

/-! ## Ensuring a path again -/

namespace Directory

/-- A path was ensured by a real directory: what was missing of it has been made, whatever requests
failed in between, and its id is what is found for it. -/
structure Ensured (path : String) (caseSensitive : Bool) (before after : Session) (id : String) :
    Prop where
  progress : ∃ calls, Progress .real before after calls
  gains : Gains .real before after (missing path caseSensitive (before.names .real))
  known : (after.known .real).isSome
  answer : (search path caseSensitive (after.directory .real)).or
    (search path false (after.directory .real)) = some id

/-- An attempt to ensure a path failed: it made the first ones of the missing labels, and fewer
faults are left. -/
structure Attempted (path : String) (caseSensitive : Bool) (before after : Session) : Prop where
  progress : ∃ calls, Progress .real before after calls
  part : ∃ made rest, missing path caseSensitive (before.names .real) = made ++ rest ∧
    Gains .real before after made
  fewer : after.account.faults < before.account.faults

section Attempts

variable {path : String} {caseSensitive : Bool} {before middle after : Session} {id : String}

theorem acquire_attempt (path : String) (caseSensitive : Bool) (before : Session) :
    (∃ id after, acquire .real path caseSensitive before = (.ok id, after) ∧
      Ensured path caseSensitive before after id) ∨
    ∃ fault after, acquire .real path caseSensitive before = (.error fault, after) ∧
      Attempted path caseSensitive before after := by
  obtain ⟨calls, made, did, _⟩ := acquire_makes .real path caseSensitive before
  cases ran : acquire .real path caseSensitive before with
  | mk outcome after =>
      rw [ran] at did
      cases outcome with
      | ok id =>
          exact .inl ⟨id, after, rfl, ⟨calls, did.progress⟩, did.whole id rfl ▸ did.gains,
            (acquire_leaves ran).2.1, acquire_answers ran⟩
      | error cause =>
          obtain ⟨fault, _, refused⟩ := did.answers
          obtain ⟨rest, split⟩ := did.part
          have fewer := refused.faults_lt did.forLabels
          rw [← did.progress.replay] at fewer
          exact .inr ⟨cause, after, rfl, ⟨calls, did.progress⟩, ⟨made, rest, split.symm, did.gains⟩,
            fewer⟩

/-- An attempt that fails changes nothing of what a later one ends with. -/
theorem Attempted.ensured (attempted : Attempted path caseSensitive before middle)
    (ensured : Ensured path caseSensitive middle after id) :
    Ensured path caseSensitive before after id := by
  obtain ⟨xs, front⟩ := attempted.progress
  obtain ⟨ys, back⟩ := ensured.progress
  obtain ⟨made, rest, split, gained⟩ := attempted.part
  have gains := ensured.gains
  rw [gained.names_eq, missing_behind split] at gains
  exact ⟨⟨xs ++ ys, front.trans back⟩, split ▸ gained.trans gains, ensured.known, ensured.answer⟩

/-- A path is ensured by as many more attempts as there are faults. -/
theorem retry_ensures (path : String) (caseSensitive : Bool) (before : Session) {more : Nat}
    (enough : before.account.faults ≤ more) :
    ∃ id after, (acquire .real path caseSensitive).retry more before = (.ok id, after) ∧
      Ensured path caseSensitive before after id := by
  induction more generalizing before with
  | zero =>
      rcases acquire_attempt path caseSensitive before with ⟨id, after, ran, ensured⟩ | failed
      · exact ⟨id, after, ran, ensured⟩
      · obtain ⟨_, _, _, attempted⟩ := failed
        exact absurd (Nat.lt_of_lt_of_le attempted.fewer enough) (Nat.not_lt_zero _)
  | succ more ih =>
      rcases acquire_attempt path caseSensitive before with ⟨id, after, ran, ensured⟩ | failed
      · exact ⟨id, after, Task.retry_of_ok ran _, ensured⟩
      · obtain ⟨fault, middle, ran, attempted⟩ := failed
        have enough' : middle.account.faults ≤ more := by
          have fewer := attempted.fewer
          omega
        obtain ⟨id, after, retried, ensured⟩ := ih middle enough'
        exact ⟨id, after, (Task.retry_of_error ran more).trans retried, attempted.ensured ensured⟩

/-- What an account has become in which a path was ensured, however many attempts that took. -/
theorem Ensured.leaves {account : Account}
    (ensured : Ensured path caseSensitive { account } after id) :
    ∃ calls, after.account.calls = account.calls ++ calls ∧
      after.account.labels = account.labels ++ account.created calls ∧
      after.realLabels = some after.account.labels ∧
      account.created calls = numberedFrom account.labelsCreated
        (missing path caseSensitive (account.labels.map (·.name))) ∧
      (account.created calls).Pairwise Apart := by
  obtain ⟨calls, progress⟩ := ensured.progress
  have start : Session.Coherent { account } := by rintro labels ⟨⟩
  obtain ⟨coherent, fits⟩ := progress.coherent start
  obtain ⟨labels, knows⟩ := Option.isSome_iff_exists.mp ensured.known
  obtain ⟨grown, numbered⟩ := ensured.gains.created_eq progress start
  rw [Session.names, start.directory] at numbered
  exact ⟨calls, by rw [progress.replay, Account.afterAll_calls], grown,
    coherent labels knows ▸ knows, numbered, created_apart fits⟩

/-- In an account without labels whose requests succeed, all levels of a path are made. -/
theorem acquire_bare {account : Account} (bare : account.labels = [])
    (granted : account.faults = 0) (path : String) :
    ∃ id after, acquire .real path false { account } = (.ok id, after) ∧
      after.account.labels.map (·.name) = levels path := by
  rcases acquire_attempt path false { account } with ⟨id, after, ran, ensured⟩ | failed
  · refine ⟨id, after, ran, ?_⟩
    obtain ⟨calls, _, grown, _, numbered, _⟩ := ensured.leaves
    rw [grown, bare, List.nil_append, numbered, numberedFrom_names, bare]
    simp [missing, isThere]
  · obtain ⟨_, _, _, attempted⟩ := failed
    have fewer : _ < account.faults := attempted.fewer
    omega

/-- **Resuming.** A path that is ensured again whenever that failed is ensured in the end, after no
more failures than there are faults.  It gets the id, and the account and the directory get the
labels, that a single attempt leads to in an account without faults; and all the attempts together
make a label once, of names that differ in more than letter case. -/
theorem acquire_resumes (account : Account) (path : String) (caseSensitive : Bool) (more : Nat) :
    ∃ id last once calls,
      (acquire .real path caseSensitive).retry (account.faults + more) { account } =
        (.ok id, last) ∧
      acquire .real path caseSensitive { account := account.withoutFaults } = (.ok id, once) ∧
      last.account.labels = once.account.labels ∧ last.realLabels = once.realLabels ∧
      last.account.calls = account.calls ++ calls ∧
      last.account.labels = account.labels ++ account.created calls ∧
      (account.created calls).Pairwise Apart := by
  have enough : account.faults ≤ account.faults + more := Nat.le_add_right ..
  obtain ⟨id, last, retried, ensured⟩ :=
    retry_ensures path caseSensitive { account } enough
  obtain ⟨own, once, ran, ensured'⟩ :=
    retry_ensures path caseSensitive { account := account.withoutFaults } (Nat.le_refl 0)
  obtain ⟨calls, recorded, grown, knows, numbered, apart⟩ := ensured.leaves
  obtain ⟨calls', _, grown', knows', numbered', _⟩ := ensured'.leaves
  have labels : last.account.labels = once.account.labels := by
    rw [grown, grown', numbered, numbered']
    rfl
  have directory : last.directory .real = once.directory .real := by
    simp [Session.directory, Session.known, knows, knows', labels]
  have answer := ensured.answer
  rw [directory, ensured'.answer] at answer
  obtain rfl : own = id := Option.some.inj answer
  exact ⟨own, last, once, calls, retried, ran, labels, by rw [knows, knows', labels], recorded,
    grown, apart⟩

end Attempts

end Directory

end MailFilters
