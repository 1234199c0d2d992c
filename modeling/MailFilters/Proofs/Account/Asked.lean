import MailFilters.Proofs.Account.Directory

/-!
# Which labels are asked for

A request for a label counts even if it is refused, so it is the requests that are looked at here,
and not the labels that they make.

* **`Task.AsksOnly`** — an activity asks for labels of some kind only; what it makes tells which
  (`AsksOnly.of_makes`).
-/

namespace MailFilters

/-- Whatever session an activity starts in, each label that it asks for has a wanted name. -/
def Task.AsksOnly (wanted : String → Prop) (task : Task ε α) : Prop :=
  ∀ before : Session, ∃ calls,
    (task before).2.account.calls = before.account.calls ++ calls ∧
      ∀ name, .createLabel name ∈ calls → wanted name

namespace Task.AsksOnly

variable {wanted : String → Prop} {task : Task ε α}

theorem mono {weaker : String → Prop} (asks : task.AsksOnly wanted)
    (weaken : ∀ name, wanted name → weaker name) : task.AsksOnly weaker := by
  intro before
  obtain ⟨calls, made, names⟩ := asks before
  exact ⟨calls, made, fun name member => weaken name (names name member)⟩

/-- An activity asks for the labels only that it is to make. -/
theorem of_makes {mode : Mode} {tell : Fault → ε} {names : Session → List String}
    (fit : ∀ session, ∀ name ∈ names session, wanted name)
    (makes : ∀ session, Makes mode tell (names session) session (task session) fun _ _ => True) :
    task.AsksOnly wanted := by
  intro before
  obtain ⟨calls, made, did, _⟩ := makes before
  refine ⟨calls, by rw [did.progress.replay, Account.afterAll_calls], fun name member => ?_⟩
  exact fit before name (did.asked name member)

end Task.AsksOnly

end MailFilters
