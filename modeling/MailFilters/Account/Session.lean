import MailFilters.Account.Basic
import MailFilters.Log

/-!
# Sessions

A session is one run against an account.  It is real or a dry run, in which nothing is created;
one session may do both, and keeps what it knows of the labels apart for the two.

* **`Session`** — the account, the labels as they are known, and the log.
* **`Task`** — an activity in a session: it may fail, and what it did before that stays done.
-/

namespace MailFilters

/-- Whether labels and filters are created or only announced. -/
inductive Mode
  | real
  | dry
  deriving DecidableEq, Repr

/-- A run against an account. -/
structure Session where
  account : Account
  /-- The labels as real activities know them, once they have been asked for. -/
  realLabels : Option (List Label) := none
  /-- The labels as dry activities know them, once they have been asked for. -/
  dryLabels : Option (List Label) := none
  log : Log := []
  /-- The names of the rules that have been dealt with. -/
  handled : List String := []
  deriving DecidableEq, Repr

namespace Session

/-- The labels as they are known in a mode. -/
def known (session : Session) : Mode → Option (List Label)
  | .real => session.realLabels
  | .dry => session.dryLabels

/-- Takes note of the labels for a mode. -/
def setKnown (session : Session) (labels : List Label) : Mode → Session
  | .real => { session with realLabels := some labels }
  | .dry => { session with dryLabels := some labels }

end Session

/-- An activity in a session, with failures of one kind. -/
def Task (ε α : Type) : Type := Session → Except ε α × Session

namespace Task

/-- The activity that only gives a value. -/
def done (value : α) : Task ε α := fun session => (.ok value, session)

/-- The activity that only fails. -/
def fail (cause : ε) : Task ε α := fun session => (.error cause, session)

/-- One activity and then another one, unless the first one fails. -/
def andThen (first : Task ε α) (next : α → Task ε β) : Task ε β := fun session =>
  match first session with
  | (.ok value, session) => next value session
  | (.error cause, session) => (.error cause, session)

instance : Monad (Task ε) where
  pure := done
  bind := andThen

theorem bind_of_ok {first : Task ε α} {next : α → Task ε β} {before after : Session} {value : α}
    (succeeded : first before = (.ok value, after)) :
    (first >>= next) before = next value after := by
  simp [bind, andThen, succeeded]

theorem bind_of_error {first : Task ε α} {next : α → Task ε β} {before after : Session}
    {cause : ε} (failed : first before = (.error cause, after)) :
    (first >>= next) before = (.error cause, after) := by
  simp [bind, andThen, failed]

/-- One activity and then another one give a value if the first one gives one, and the second one
gives this value behind it. -/
theorem bind_eq_ok_iff {first : Task ε α} {next : α → Task ε β} {before after : Session}
    {result : β} :
    (first >>= next) before = (.ok result, after) ↔
      ∃ value middle, first before = (.ok value, middle) ∧
        next value middle = (.ok result, after) := by
  constructor
  · intro ran
    cases outcome : first before with
    | mk answer middle =>
        cases answer with
        | ok value => exact ⟨value, middle, rfl, (bind_of_ok outcome).symm.trans ran⟩
        | error cause =>
            rw [bind_of_error outcome] at ran
            simp at ran
  · intro ran
    obtain ⟨value, middle, front, back⟩ := ran
    exact (bind_of_ok front).trans back

/-- One activity, and what becomes of its outcome. -/
def conclude (first : Task ε α) (next : Except ε α → Task δ β) : Task δ β := fun session =>
  let (outcome, session) := first session
  next outcome session

theorem conclude_of_run {first : Task ε α} {next : Except ε α → Task δ β} {before after : Session}
    {outcome : Except ε α} (ran : first before = (outcome, after)) :
    first.conclude next before = next outcome after := by rw [conclude, ran]

/-- What follows an activity concludes it: a failure stands. -/
theorem bind_eq_conclude (first : Task ε α) (next : α → Task ε β) :
    first >>= next = first.conclude fun
      | .ok value => next value
      | .error cause => fail cause := by
  funext session
  cases ran : first session with
  | mk outcome after =>
      rw [conclude_of_run ran]
      cases outcome with
      | ok value => exact bind_of_ok ran
      | error cause => exact bind_of_error ran

/-- An activity with its failures told in another way. -/
def mapFailure (f : ε → δ) (task : Task ε α) : Task δ α :=
  task.conclude fun
    | .ok value => done value
    | .error cause => fail (f cause)

theorem mapFailure_eq_ok_iff {f : ε → δ} {task : Task ε α} {before after : Session} {value : α} :
    task.mapFailure f before = (.ok value, after) ↔ task before = (.ok value, after) := by
  rw [mapFailure, conclude]
  cases task before with
  | mk outcome after' => cases outcome <;> simp [done, fail]

theorem mapFailure_of_error {f : ε → δ} {task : Task ε α} {before after : Session} {cause : ε}
    (failed : task before = (.error cause, after)) :
    task.mapFailure f before = (.error (f cause), after) := by
  simp [mapFailure, conclude, fail, failed]

/-- Looks at the session. -/
def look : Task ε Session := fun session => (.ok session, session)

/-- Changes the session. -/
def change (f : Session → Session) : Task ε Unit := fun session => (.ok (), f session)

/-- Adds a line to the log. -/
def note (level : LogLevel) (text : String) : Task ε Unit :=
  change fun session => { session with log := session.log ++ [⟨level, text⟩] }

/-- Makes a request to the account. -/
def request (ask : Account → Except Fault α × Account) : Task Fault α := fun session =>
  let (outcome, account) := ask session.account
  (outcome, { session with account := account })

/-- Makes a request to the account, and takes note of its failure. -/
def requestOrNote (ask : Account → Except Fault α × Account) (describe : Fault → String) :
    Task Fault α :=
  (request ask).conclude fun
    | .ok value => done value
    | .error fault => do
      note .error (describe fault)
      fail fault

end Task

end MailFilters
