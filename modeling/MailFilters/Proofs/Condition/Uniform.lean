import MailFilters.Condition.Criteria

/-!
# One combinator

Criteria take conditions of one combinator only.

* **`Uniform`** — conditions that share one combinator.
* **`extend_eq_ok_iff`** — criteria take in conditions exactly if all of them stay uniform.
* **`Reachable`** — the criteria that additions and freezing lead to; their conditions are uniform
  (`Reachable.uniform`).
-/

namespace MailFilters.Criteria

/-- Conditions that share one combinator. -/
def Uniform (conditions : List Condition) : Prop :=
  ∃ combinator, ∀ condition ∈ conditions, condition.combinator = combinator

theorem Uniform.nil : Uniform [] := ⟨.and, by simp⟩

theorem Uniform.of_append {first second : List Condition} (uniform : Uniform (first ++ second)) :
    Uniform first := by
  obtain ⟨combinator, shared⟩ := uniform
  exact ⟨combinator, fun condition member => shared condition (List.mem_append_left _ member)⟩

theorem uniform_concat_iff {conditions : List Condition} {condition : Condition}
    (uniform : Uniform conditions) :
    Uniform (conditions ++ [condition]) ↔
      ∀ first, conditions.head? = some first → first.combinator = condition.combinator := by
  constructor
  · rintro ⟨combinator, shared⟩ first head
    have member := List.mem_of_mem_head? head
    rw [shared first (List.mem_append_left _ member), shared condition (by simp)]
  · intro fits
    obtain ⟨combinator, shared⟩ := uniform
    refine ⟨condition.combinator, ?_⟩
    intro other member
    rcases List.mem_append.mp member with inside | last
    · cases conditions with
      | nil => simp at inside
      | cons first rest =>
          rw [shared other inside, ← shared first List.mem_cons_self]
          exact fits first rfl
    · rw [List.mem_singleton.mp last]

/-- Criteria take one more condition exactly if they may change and stay uniform. -/
theorem add_eq_ok_iff {criteria result : Criteria} {condition : Condition}
    (uniform : Uniform criteria.conditions) :
    criteria.add condition = .ok result ↔
      criteria.frozen = false ∧ Uniform (criteria.conditions ++ [condition]) ∧
        result = { criteria with conditions := criteria.conditions ++ [condition] } := by
  have mixed : criteria.combinator.any (· != condition.combinator) = true ↔
      ¬ Uniform (criteria.conditions ++ [condition]) := by
    rw [uniform_concat_iff uniform, combinator]
    cases criteria.conditions.head? with
    | none => simp
    | some first => simp
  unfold add
  cases criteria.frozen with
  | true => simp
  | false =>
      by_cases stays : Uniform (criteria.conditions ++ [condition])
      · rw [if_neg (by simp), if_neg (by rw [mixed]; exact not_not_intro stays)]
        simp [stays, eq_comm]
      · rw [if_neg (by simp), if_pos (mixed.mpr stays)]
        simp [stays]

/-- Criteria take in conditions exactly if all of them stay uniform. -/
theorem extend_eq_ok_iff {criteria result : Criteria} {conditions : List Condition}
    (open' : criteria.frozen = false) (uniform : Uniform criteria.conditions) :
    criteria.extend conditions = (result, .ok ()) ↔
      Uniform (criteria.conditions ++ conditions) ∧
        result = { criteria with conditions := criteria.conditions ++ conditions } := by
  induction conditions generalizing criteria with
  | nil =>
      rw [extend, List.append_nil]
      simp [uniform, eq_comm]
  | cons condition rest ih =>
      have shift : criteria.conditions ++ condition :: rest =
          criteria.conditions ++ [condition] ++ rest := by simp
      rw [extend, shift]
      cases added : criteria.add condition with
      | error cause =>
          simp only [Prod.mk.injEq, reduceCtorEq, and_false, false_iff, not_and]
          intro stays
          have grown := (add_eq_ok_iff uniform).mpr ⟨open', stays.of_append, rfl⟩
          rw [added] at grown
          simp at grown
      | ok grown =>
          obtain ⟨_, stays, rfl⟩ := (add_eq_ok_iff uniform).mp added
          exact ih open' stays

/-! ## Criteria that changes lead to -/

/-- Criteria made from none by adding conditions, one by one or several at once, and by freezing;
several at once may stop at one that does not fit. -/
inductive Reachable : Criteria → Prop
  | start : Reachable {}
  | add {criteria result : Criteria} {condition : Condition} :
      Reachable criteria → criteria.add condition = .ok result → Reachable result
  | extend {criteria : Criteria} (conditions : List Condition) :
      Reachable criteria → Reachable (criteria.extend conditions).1
  | freeze {criteria : Criteria} : Reachable criteria → Reachable criteria.freeze

theorem extend_uniform {criteria : Criteria} (uniform : Uniform criteria.conditions)
    (conditions : List Condition) : Uniform (criteria.extend conditions).1.conditions := by
  induction conditions generalizing criteria with
  | nil => exact uniform
  | cons condition rest ih =>
      rw [extend]
      cases added : criteria.add condition with
      | error cause => exact uniform
      | ok grown =>
          obtain ⟨_, stays, rfl⟩ := (add_eq_ok_iff uniform).mp added
          exact ih stays

theorem Reachable.uniform {criteria : Criteria} (reachable : Reachable criteria) :
    Uniform criteria.conditions := by
  induction reachable with
  | start => exact Uniform.nil
  | add _ added ih =>
      obtain ⟨_, stays, rfl⟩ := (add_eq_ok_iff ih).mp added
      exact stays
  | extend conditions _ ih => exact extend_uniform ih conditions
  | freeze _ ih => exact ih

end MailFilters.Criteria
