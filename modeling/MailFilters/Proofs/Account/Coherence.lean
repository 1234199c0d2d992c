import MailFilters.Proofs.Account.Directory

/-!
# A directory and its account

A label directory keeps a list of labels of its own.  Whatever requests fail, the list stays the one
of the account.

* **`Lookup`** — a use of a directory; **`afterLookups`** — a session after several of them.
* **`created_distinct`** — requests that fit make labels whose names differ in more than letter
  case.
* **`Orderly`** — what the requests of a directory are like, and what it knows after them.
* **`lookups_orderly`** — every sequence of uses is orderly.
-/

namespace MailFilters

namespace Directory

/-- A use of a directory. -/
inductive Lookup
  | find (path : String) (caseSensitive : Bool)
  | acquire (path : String) (caseSensitive : Bool)
  deriving DecidableEq, Repr

/-- What a use of a directory gives: the id of a label, if there is one. -/
def Lookup.perform (mode : Mode) : Lookup → Task Fault (Option String)
  | .find path caseSensitive => Directory.find mode path caseSensitive
  | .acquire path caseSensitive => do
    let id ← Directory.acquire mode path caseSensitive
    return some id

/-- A session after several uses of a directory, of which each may fail. -/
def afterLookups (mode : Mode) (session : Session) (lookups : List Lookup) : Session :=
  lookups.foldl (fun session lookup => (lookup.perform mode session).2) session

theorem Lookup.perform_works (mode : Mode) (lookup : Lookup) (session : Session) :
    Works mode id session (lookup.perform mode session) fun _ _ => True := by
  cases lookup with
  | find path caseSensitive =>
      exact (find_makes mode path caseSensitive session).works.imp fun _ _ _ => trivial
  | acquire path caseSensitive =>
      exact (acquire_makes mode path caseSensitive session).works.bind fun _ _ _ => .done trivial

theorem afterLookups_progress (mode : Mode) (session : Session) (lookups : List Lookup) :
    ∃ calls, Progress mode session (afterLookups mode session lookups) calls := by
  induction lookups generalizing session with
  | nil => exact ⟨[], .refl session⟩
  | cons lookup rest ih =>
      obtain ⟨_, xs, _, did, _⟩ := lookup.perform_works mode session
      obtain ⟨ys, progress⟩ := ih (lookup.perform mode session).2
      exact ⟨xs ++ ys, did.progress.trans progress⟩

/-! ## Names of new labels -/

/-- Whether the names of two labels differ in more than letter case. -/
def Apart (first second : Label) : Prop := Text.sameLetters first.name second.name = false

theorem newLabels_apart {account : Account} {call : Call} (fits : account.Fits call) :
    (account.newLabels call).Pairwise Apart ∧
      ∀ label ∈ account.labels, ∀ new ∈ account.newLabels call, Apart label new := by
  cases call with
  | listLabels => simp [Account.newLabels]
  | createFilter filter => simp [Account.newLabels]
  | createLabel name =>
      rw [Account.newLabels]
      split
      · refine ⟨List.pairwise_singleton _ _, ?_⟩
        intro label member new isNew
        rw [List.mem_singleton.mp isNew]
        exact fits.1 label member
      · simp

/-- Requests that fit make labels whose names differ from each other and from those that were there
in more than letter case. -/
theorem created_distinct {account : Account} {calls : List Call}
    (fits : account.Always Account.Fits calls) :
    ∃ created, (account.afterAll calls).labels = account.labels ++ created ∧
      created.Pairwise Apart ∧ ∀ label ∈ account.labels, ∀ new ∈ created, Apart label new := by
  induction calls generalizing account with
  | nil => exact ⟨[], by simp⟩
  | cons call rest ih =>
      obtain ⟨created, grown, distinct, fresh⟩ := ih fits.2
      obtain ⟨distinct', fresh'⟩ := newLabels_apart fits.1
      rw [Account.after_labels] at grown fresh
      rw [List.forall_mem_append] at fresh
      refine ⟨account.newLabels call ++ created, by rw [Account.afterAll_cons, grown,
        List.append_assoc], List.pairwise_append.mpr ⟨distinct', distinct, fresh.2⟩, ?_⟩
      intro label member
      exact List.forall_mem_append.mpr ⟨fresh' label member, fresh.1 label member⟩

theorem created_apart {account : Account} {calls : List Call}
    (fits : account.Always Account.Fits calls) : (account.created calls).Pairwise Apart := by
  obtain ⟨created, grown, distinct, _⟩ := created_distinct fits
  rw [Account.afterAll_labels] at grown
  rwa [List.append_cancel_left grown]

/-! ## Order -/

/-- What the requests of a real directory to an account are like, and what it knows after them. -/
structure Orderly (account : Account) (session : Session) (calls : List Call) : Prop where
  /-- The account has got these requests and no others. -/
  replay : session.account = account.afterAll calls
  recorded : session.account.calls = account.calls ++ calls
  /-- Once the labels have been given they are not asked for again. -/
  listedOnce : ∀ earlier later, calls = earlier ++ .listLabels :: later →
    (account.afterAll earlier).faultOf .listLabels = none → .listLabels ∉ later
  /-- From then on the directory knows the labels as the account has them. -/
  current : ∀ earlier later, calls = earlier ++ .listLabels :: later →
    (account.afterAll earlier).faultOf .listLabels = none →
      session.realLabels = some session.account.labels
  /-- A label is asked for only if no label that is there has its name in any letter case. -/
  newName : ∀ earlier name later, calls = earlier ++ .createLabel name :: later →
    ∀ label ∈ (account.afterAll earlier).labels, Text.sameLetters label.name name = false
  /-- The names of the labels that are created differ in more than letter case. -/
  distinct : ∃ created, session.account.labels = account.labels ++ created ∧
    created.Pairwise Apart ∧ ∀ label ∈ account.labels, ∀ new ∈ created, Apart label new
  /-- The parents of a label that is asked for are there, in some letter case. -/
  parents : ∀ earlier parent below later,
    calls = earlier ++ .createLabel (parent ++ "/" ++ below) :: later →
      ∃ label ∈ (account.afterAll earlier).labels, Text.sameLetters label.name parent = true

theorem Orderly.of_progress {account : Account} {session : Session} {calls : List Call}
    (progress : Progress .real { account } session calls) : Orderly account session calls := by
  have start : Session.Coherent { account } := by rintro labels ⟨⟩
  obtain ⟨coherent, fits⟩ := progress.coherent start
  have each := Account.always_iff.mp fits
  refine
    { replay := progress.replay
      recorded := by rw [progress.replay, Account.afterAll_calls]
      listedOnce := fun earlier later split granted => (progress.once earlier later split granted).2
      current := ?_
      newName := fun earlier name later split => (each earlier _ later split).1
      distinct := progress.replay ▸ created_distinct fits
      parents := fun earlier parent below later split =>
        (each earlier _ later split).2 parent below rfl }
  intro earlier later split granted
  have known := (progress.once earlier later split granted).1
  obtain ⟨labels, knows⟩ := Option.isSome_iff_exists.mp known
  rw [← coherent labels knows]
  exact knows

/-- **Coherence.** Every sequence of uses of a real directory is orderly, whatever requests fail:
after each of them the directory knows the labels of its account, and it makes labels of new names
only, parents first. -/
theorem lookups_orderly (account : Account) (lookups : List Lookup) :
    ∃ calls, Orderly account (afterLookups .real { account } lookups) calls := by
  obtain ⟨calls, progress⟩ := afterLookups_progress .real { account } lookups
  exact ⟨calls, .of_progress progress⟩

end Directory

end MailFilters
