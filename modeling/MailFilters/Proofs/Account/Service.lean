import MailFilters.Proofs.Account.Directory

/-!
# Directories without faults

When no request for labels fails, every activity of a directory succeeds.

* **`Session.Serves`** — a session in which no request for labels fails.
* **`Gives`** — an activity that gives a value, and adds only new labels to the directory; whatever
  works does so without faults (`Works.gives`).
-/

namespace MailFilters

/-- No request for labels fails. -/
structure Session.Serves (session : Session) : Prop where
  lists : Silent session.account.listFaults
  creates : Silent session.account.labelFaults

/-- A later request finds no fault either. -/
theorem Session.Serves.after {before after : Session} (serves : before.Serves) (call : Call)
    (account : after.account = before.account.after call) : after.Serves := by
  constructor
  · rw [account, Account.after_listFaults]
    split
    · exact serves.lists.tail
    · exact serves.lists
  · rw [account]
    rcases before.account.after_labelFaults call with same | tail
    · rw [same]
      exact serves.creates
    · rw [tail]
      exact serves.creates.tail

theorem Session.Serves.afterAll {before after : Session} (serves : before.Serves)
    {calls : List Call} (account : after.account = before.account.afterAll calls) :
    after.Serves := by
  induction calls generalizing before with
  | nil => exact ⟨account ▸ serves.lists, account ▸ serves.creates⟩
  | cons call rest ih =>
      let next : Session := { before with account := before.account.after call }
      have serves' : next.Serves := serves.after call rfl
      exact ih serves' account

/-- No request for labels fails, the last one of several included. -/
theorem Session.Serves.not_refuses {session : Session} (serves : session.Serves)
    {calls : List Call} (forLabels : ∀ call ∈ calls, call.IsForLabels) (fault : Fault) :
    ¬ session.account.Refuses calls fault := by
  intro refused
  obtain ⟨before, call, rfl, _, failed⟩ := refused
  let last : Session := { session with account := session.account.afterAll before }
  have serves' : last.Serves := serves.afterAll rfl
  have granted : last.account.faultOf call = none := by
    have isForLabels := forLabels call (by simp)
    cases call with
    | listLabels => exact serves'.lists.nextFault
    | createLabel name => exact serves'.creates.nextFault
    | createFilter filter => exact isForLabels.elim
  rw [granted] at failed
  simp at failed

/-- An activity gives a value, adds only labels with ids of new ones to the directory, and leaves a
postcondition behind. -/
def Gives (mode : Mode) (before : Session) (result : Except ε α × Session)
    (post : α → Session → Prop) : Prop :=
  ∃ value after created, result = (.ok value, after) ∧ after.Serves ∧
    after.directory mode = before.directory mode ++ created ∧
    (∀ label ∈ created, ¬ Plain label.id) ∧ post value after

section Activities

variable {mode : Mode} {tell : Fault → ε} {before : Session} {result : Except ε α × Session}
  {post : α → Session → Prop}

/-- Without faults an activity succeeds, and makes all labels that it is to make. -/
theorem Makes.succeeds {names : List String} (makes : Makes mode tell names before result post)
    (serves : before.Serves) :
    ∃ value after calls, result = (.ok value, after) ∧
      Did mode tell names before result calls names ∧ post value after := by
  obtain ⟨calls, made, did, leaves⟩ := makes
  obtain ⟨outcome, after⟩ := result
  cases outcome with
  | ok value =>
      obtain rfl := did.whole value rfl
      exact ⟨value, after, calls, rfl, did, leaves value rfl⟩
  | error cause =>
      obtain ⟨fault, _, refused⟩ := did.answers
      exact absurd refused (serves.not_refuses did.forLabels fault)

/-- **Service.** Without faults an activity gives a value. -/
theorem Works.gives (works : Works mode tell before result post) (serves : before.Serves) :
    Gives mode before result post := by
  obtain ⟨names, makes⟩ := works
  obtain ⟨value, after, calls, rfl, did, holds⟩ := makes.succeeds serves
  obtain ⟨created, grown, _, new⟩ := did.gains.grown
  exact ⟨value, after, created, rfl, serves.afterAll did.progress.replay, grown,
    fun label member => (new label member).not_plain, holds⟩

end Activities

end MailFilters
