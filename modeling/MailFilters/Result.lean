/-!
# Results

When a step that follows another one succeeds, both of them have; when it fails, one of them has.
Steps over a list succeed if each of them does by itself.
-/

namespace MailFilters.Result

theorem bind_eq_ok_iff {first : Except ε α} {next : α → Except ε β} {result : β} :
    first >>= next = .ok result ↔ ∃ value, first = .ok value ∧ next value = .ok result := by
  cases first <;> simp [bind, Except.bind]

theorem bind_eq_error_iff {first : Except ε α} {next : α → Except ε β} {cause : ε} :
    first >>= next = .error cause ↔
      first = .error cause ∨ ∃ value, first = .ok value ∧ next value = .error cause := by
  cases first <;> simp [bind, Except.bind]

theorem pure_eq_ok_iff {value result : α} :
    (pure value : Except ε α) = .ok result ↔ value = result := by
  simp [pure, Except.pure]

theorem exists_mapM_eq_ok {step : α → Except ε β} {members : List α}
    (each : ∀ member ∈ members, ∃ value, step member = .ok value) :
    ∃ values, members.mapM step = .ok values := by
  induction members with
  | nil => exact ⟨[], rfl⟩
  | cons member rest ih =>
      obtain ⟨first, others⟩ := List.forall_mem_cons.mp each
      obtain ⟨value, here⟩ := first
      obtain ⟨values, behind⟩ := ih others
      refine ⟨value :: values, ?_⟩
      rw [List.mapM_cons, here, behind]
      rfl

end MailFilters.Result
