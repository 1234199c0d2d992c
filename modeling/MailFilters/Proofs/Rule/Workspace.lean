import Mathlib.Data.List.Basic
import MailFilters.Proofs.Condition.Uniform
import MailFilters.Rule.Workspace

/-!
# Changes to rules

Rules and a rule set are changed in any order, and frozen at any time.  What is frozen stays as it
is, and a change that is refused leaves everything as it was, save for the conditions that it took
in before one did not fit.

* **`Criteria.Extends`** — the ways in which adding conditions ends.
* **`Rule.IsSound`**, **`Rule.Advances`** — rules that changes lead to, and what a change to a rule
  may do.
* **`Workspace.IsSound`**, **`Workspace.Keeps`** — the same for all rules and the rule set;
  **`apply_sound`**, **`apply_keeps`** — one change, **`applyAll_sound`**, **`applyAll_keeps`** —
  any number of changes.
* **`Workspace.Refuses`** — what a refused change leaves behind.
* **`changes_disciplined`** — all of this for every history of changes.
-/

namespace MailFilters

/-! ## Adding conditions -/

namespace Criteria

/-- Conditions, at least one, that share a combinator which one more does not have. -/
structure Mixes (taken : List Condition) (odd : Condition) : Prop where
  nonempty : taken ≠ []
  uniform : Uniform taken
  odd : ∀ condition ∈ taken, condition.combinator ≠ odd.combinator

/-- The ways in which adding conditions ends: all are taken, none is because the criteria are
frozen, or those before the first one of another combinator. -/
inductive Extends (criteria : Criteria) (given : List Condition) :
    Criteria × Except RuleError Unit → Prop
  | all : Uniform (criteria.conditions ++ given) → (criteria.frozen = true → given = []) →
      Extends criteria given
        ({ criteria with conditions := criteria.conditions ++ given }, .ok ())
  | frozen : criteria.frozen = true → Extends criteria given (criteria, .error .frozenConditions)
  | mixed {kept later : List Condition} {odd : Condition} : criteria.frozen = false →
      given = kept ++ odd :: later → Mixes (criteria.conditions ++ kept) odd →
      Extends criteria given
        ({ criteria with conditions := criteria.conditions ++ kept }, .error .mixedCombinators)

variable {criteria : Criteria} {condition : Condition}

/-- Criteria that may change refuse a condition only because of its combinator. -/
theorem add_eq_error {cause : RuleError} (unfrozen : criteria.frozen = false)
    (uniform : Uniform criteria.conditions) (refused : criteria.add condition = .error cause) :
    cause = .mixedCombinators ∧ Mixes criteria.conditions condition := by
  rw [add, if_neg (by simp [unfrozen])] at refused
  split at refused
  · next mixed =>
      obtain ⟨combinator, shared⟩ := uniform
      obtain ⟨other, head, different⟩ := Option.any_eq_true _ _ |>.mp mixed
      obtain ⟨first, atHead, rfl⟩ := Option.map_eq_some_iff.mp head
      have inside := List.mem_of_mem_head? atHead
      refine ⟨by simpa using refused.symm, List.ne_nil_of_mem inside, ⟨combinator, shared⟩, ?_⟩
      intro other member
      rw [shared other member, ← shared first inside]
      simpa using different
  · simp at refused

/-- Adding one condition and then others ends in the way in which adding the others does. -/
theorem Extends.behind {given : List Condition} {ending : Criteria × Except RuleError Unit}
    (unfrozen : criteria.frozen = false)
    (ends : Extends { criteria with conditions := criteria.conditions ++ [condition] } given
      ending) :
    Extends criteria (condition :: given) ending := by
  have shift : ∀ others, criteria.conditions ++ [condition] ++ others =
      criteria.conditions ++ condition :: others := by simp
  cases ends with
  | all uniform _ =>
      rw [shift] at uniform ⊢
      exact .all uniform (by simp [unfrozen])
  | frozen frozen => simp [unfrozen] at frozen
  | mixed _ split mixes =>
      rw [shift] at mixes ⊢
      exact .mixed unfrozen (congrArg (condition :: ·) split) mixes

/-- Adding conditions ends in one of these ways. -/
theorem extend_extends (uniform : Uniform criteria.conditions) (given : List Condition) :
    criteria.Extends given (criteria.extend given) := by
  induction given generalizing criteria with
  | nil =>
      have whole : Extends criteria [] _ := .all (by simpa using uniform) fun _ => rfl
      rw [List.append_nil] at whole
      exact whole
  | cons condition rest ih =>
      rw [extend]
      cases added : criteria.add condition with
      | ok grown =>
          obtain ⟨unfrozen, stays, rfl⟩ := (add_eq_ok_iff uniform).mp added
          exact .behind unfrozen (ih stays)
      | error cause =>
          cases frozen : criteria.frozen with
          | true =>
              obtain rfl : RuleError.frozenConditions = cause := by
                simpa [add, frozen] using added
              exact .frozen frozen
          | false =>
              obtain ⟨rfl, mixes⟩ := add_eq_error frozen uniform added
              rw [← List.append_nil criteria.conditions] at mixes
              have nothing : Extends criteria (condition :: rest) _ := .mixed frozen rfl mixes
              rw [List.append_nil] at nothing
              exact nothing

end Criteria

/-! ## Changes to one rule -/

/-- A rule whose conditions share a combinator, and are frozen exactly if it is. -/
structure Rule.IsSound (rule : Rule) : Prop where
  uniform : Criteria.Uniform rule.criteria.conditions
  frozen : rule.criteria.frozen = rule.frozen

/-- What a change may do to a rule: a sound rule stays sound, and a frozen one stays what it is. -/
structure Rule.Advances (before after : Rule) : Prop where
  sound : after.IsSound
  kept : before.frozen = true → after = before

/-- The rule with conditions behind its own. -/
def Rule.taking (rule : Rule) (conditions : List Condition) : Rule :=
  { rule with
    criteria := { rule.criteria with conditions := rule.criteria.conditions ++ conditions } }

/-- What a refused change leaves of a rule: the rule, or the rule with those of some conditions
that stand before the first one of another combinator. -/
inductive Rule.Leaves (rule : Rule) (given : List Condition) (after : Rule) : RuleError → Prop
  | untouched {cause : RuleError} : cause ≠ .mixedCombinators → after = rule →
      Leaves rule given after cause
  | part {kept later : List Condition} {odd : Condition} : given = kept ++ odd :: later →
      Criteria.Mixes (rule.criteria.conditions ++ kept) odd → after = rule.taking kept →
      Leaves rule given after .mixedCombinators

namespace Rule

variable {rule : Rule}

theorem IsSound.fresh (name : String) (enabled : Bool) (type : Int) :
    IsSound { name, enabled, type } := ⟨.nil, rfl⟩

/-- A change that leaves the criteria alone. -/
theorem change_advances (sound : rule.IsSound) {edit : Rule → Rule}
    (criteria : (edit rule).criteria = rule.criteria) (frozen : (edit rule).frozen = rule.frozen) :
    rule.Advances (rule.change edit).1 := by
  rw [change]
  split
  · exact ⟨sound, fun _ => rfl⟩
  · next unfrozen =>
      refine ⟨⟨?_, ?_⟩, fun isFrozen => absurd isFrozen unfrozen⟩
      · rw [criteria]
        exact sound.uniform
      · rw [criteria, frozen]
        exact sound.frozen

theorem change_leaves {edit : Rule → Rule} {after : Rule} {cause : RuleError}
    (refused : rule.change edit = (after, .error cause)) : rule.Leaves [] after cause := by
  rw [change] at refused
  split at refused
  · simp only [Prod.mk.injEq, Except.error.injEq] at refused
    obtain ⟨rfl, rfl⟩ := refused
    exact .untouched (by simp) rfl
  · simp at refused

theorem withCriteria_advances (sound : rule.IsSound) (given : List Condition) :
    rule.Advances (rule.withCriteria given).1 := by
  have ends := Criteria.extend_extends sound.uniform given
  rw [withCriteria]
  generalize rule.criteria.extend given = ending at ends
  cases ends with
  | all uniform empty =>
      refine ⟨⟨uniform, sound.frozen⟩, ?_⟩
      intro isFrozen
      rw [empty (sound.frozen.trans isFrozen)]
      simp
  | frozen _ => exact ⟨sound, fun _ => rfl⟩
  | mixed unfrozen _ mixes =>
      refine ⟨⟨mixes.uniform, sound.frozen⟩, ?_⟩
      intro isFrozen
      rw [← sound.frozen, unfrozen] at isFrozen
      simp at isFrozen

theorem withCriteria_leaves (sound : rule.IsSound) {given : List Condition} {after : Rule}
    {cause : RuleError} (refused : rule.withCriteria given = (after, .error cause)) :
    rule.Leaves given after cause := by
  have ends := Criteria.extend_extends sound.uniform given
  rw [withCriteria] at refused
  generalize rule.criteria.extend given = ending at ends refused
  cases ends with
  | all _ _ => simp at refused
  | frozen _ =>
      simp only [Prod.mk.injEq, Except.error.injEq] at refused
      obtain ⟨rfl, rfl⟩ := refused
      exact .untouched (by simp) rfl
  | mixed _ split mixes =>
      simp only [Prod.mk.injEq, Except.error.injEq] at refused
      obtain ⟨rfl, rfl⟩ := refused
      exact .part split mixes rfl

theorem withConditions_advances (sound : rule.IsSound) (given : List Condition) :
    rule.Advances (rule.withConditions given).1 := by
  rw [withConditions]
  split
  · exact ⟨sound, fun _ => rfl⟩
  · exact withCriteria_advances sound given

theorem withConditions_leaves (sound : rule.IsSound) {given : List Condition} {after : Rule}
    {cause : RuleError} (refused : rule.withConditions given = (after, .error cause)) :
    rule.Leaves given after cause := by
  rw [withConditions] at refused
  split at refused
  · simp only [Prod.mk.injEq, Except.error.injEq] at refused
    obtain ⟨rfl, rfl⟩ := refused
    exact .untouched (by simp) rfl
  · exact withCriteria_leaves sound refused

theorem freeze_advances (sound : rule.IsSound) : rule.Advances rule.freeze := by
  refine ⟨⟨sound.uniform, rfl⟩, ?_⟩
  intro isFrozen
  have criteriaFrozen := sound.frozen.trans isFrozen
  obtain ⟨name, enabled, type, ⟨conditions, _⟩, actions, _⟩ := rule
  subst isFrozen criteriaFrozen
  rfl

end Rule

/-! ## Changes to a workspace -/

namespace Workspace

/-- A workspace whose rules are sound and whose rule set has rules for members, frozen ones if it is
frozen. -/
structure IsSound (space : Workspace) : Prop where
  rules : ∀ rule ∈ space.rules, rule.IsSound
  members : ∀ number ∈ space.set.rules, ∃ rule, space.rules[number]? = some rule ∧
    (space.set.frozen = true → rule.frozen = true)

/-- What stays from one workspace to a later one: frozen rules, a frozen rule set together with its
rules, and a logging flag that is set. -/
structure Keeps (before after : Workspace) : Prop where
  version : after.set.version = before.set.version
  frozenRule : ∀ (number : Nat) (rule : Rule), before.rules[number]? = some rule →
    rule.frozen = true → after.rules[number]? = some rule
  frozenSet : before.set.frozen = true → after.set = before.set ∧ after.ruleSet = before.ruleSet
  logging : ∀ flag, before.set.logging = some flag → after.set.logging = some flag

/-- What a refused change leaves behind: everything as it was, or a rule with those of the given
conditions that stand before the first one of another combinator. -/
inductive Refuses (space : Workspace) : Change → RuleError → Workspace → Prop
  | untouched {change : Change} {cause : RuleError} : cause ≠ .mixedCombinators →
      Refuses space change cause space
  | part {change : Change} {number : Nat} {rule : Rule} {kept later : List Condition}
      {odd : Condition} :
      change = .require number (kept ++ odd :: later) ∨
        change = .extendCriteria number (kept ++ odd :: later) →
      space.rules[number]? = some rule → Criteria.Mixes (rule.criteria.conditions ++ kept) odd →
      Refuses space change .mixedCombinators
        { space with rules := space.rules.set number (rule.taking kept) }

variable {space : Workspace}

namespace Keeps

theorem refl (space : Workspace) : space.Keeps space :=
  ⟨rfl, fun _ _ found _ => found, fun _ => ⟨rfl, rfl⟩, fun _ given => given⟩

theorem trans {first second third : Workspace} (front : first.Keeps second)
    (back : second.Keeps third) : first.Keeps third where
  version := back.version.trans front.version
  frozenRule number rule found frozen :=
    back.frozenRule number rule (front.frozenRule number rule found frozen) frozen
  frozenSet frozen := by
    obtain ⟨set, ruleSet⟩ := front.frozenSet frozen
    obtain ⟨set', ruleSet'⟩ := back.frozenSet (set ▸ frozen)
    exact ⟨set'.trans set, ruleSet'.trans ruleSet⟩
  logging flag given := back.logging flag (front.logging flag given)

/-- A rule set that is not frozen may change. -/
theorem of_unfrozen {after : Workspace} (unfrozen : space.set.frozen = false)
    (version : after.set.version = space.set.version)
    (rules : ∀ (number : Nat) (rule : Rule), space.rules[number]? = some rule →
      rule.frozen = true → after.rules[number]? = some rule)
    (logging : ∀ flag, space.set.logging = some flag → after.set.logging = some flag) :
    space.Keeps after :=
  ⟨version, rules, by simp [unfrozen], logging⟩

/-- The rules of a frozen rule set are frozen, so it stays with them if its numbers stay. -/
theorem of_set {after : Workspace} (sound : space.IsSound) (set : after.set = space.set)
    (rules : ∀ (number : Nat) (rule : Rule), space.rules[number]? = some rule →
      rule.frozen = true → after.rules[number]? = some rule) : space.Keeps after where
  version := by rw [set]
  frozenRule := rules
  frozenSet frozen := by
    refine ⟨set, ?_⟩
    -- all members are frozen, so each number still gives the same rule
    have members : after.set.rules.filterMap (fun number => after.rules[number]?) =
        space.set.rules.filterMap fun number => space.rules[number]? := by
      rw [set]
      refine List.filterMap_congr ?_
      intro number member
      obtain ⟨rule, found, isFrozen⟩ := sound.members number member
      rw [rules number rule found (isFrozen frozen), found]
    rw [ruleSet, ruleSet, members, set]
  logging := by simp [set]

end Keeps

/-! ### Changing one rule -/

theorem editRule_found {number : Nat} {rule : Rule} (found : space.rules[number]? = some rule)
    (edit : Rule → Edited Rule) :
    space.editRule number edit =
      ({ space with rules := space.rules.set number (edit rule).1 }, (edit rule).2) := by
  rw [editRule, found]

theorem editRule_missing {number : Nat} (missing : space.rules[number]? = none)
    (edit : Rule → Edited Rule) : space.editRule number edit = (space, .ok ()) := by
  rw [editRule, missing]

section EditRule

variable {edit : Rule → Edited Rule}
  (advances : ∀ rule : Rule, rule.IsSound → rule.Advances (edit rule).1)
include advances

/-- What stands at a number after a rule has been changed. -/
theorem set_advanced {number other : Nat} {rule old : Rule}
    (sound : space.IsSound) (found : space.rules[number]? = some rule)
    (there : space.rules[other]? = some old) :
    ∃ new, (space.rules.set number (edit rule).1)[other]? = some new ∧ old.Advances new := by
  have soundAt : ∀ {index : Nat} {kept : Rule}, space.rules[index]? = some kept → kept.IsSound :=
    fun there => sound.rules _ (List.mem_of_getElem? there)
  by_cases same : number = other
  · subst same
    obtain rfl := Option.some.inj (found.symm.trans there)
    refine ⟨(edit rule).1, ?_, advances rule (soundAt found)⟩
    rw [List.getElem?_set_self (List.getElem?_eq_some_iff.mp found).1]
  · exact ⟨old, by rw [List.getElem?_set_ne same, there], soundAt there, fun _ => rfl⟩

theorem editRule_sound (sound : space.IsSound) (number : Nat) :
    (space.editRule number edit).1.IsSound := by
  cases found : space.rules[number]? with
  | none =>
      rw [editRule_missing found]
      exact sound
  | some rule =>
      rw [editRule_found found]
      constructor
      · intro other member
        rcases List.mem_or_eq_of_mem_set member with old | rfl
        · exact sound.rules other old
        · exact (advances rule (sound.rules rule (List.mem_of_getElem? found))).sound
      · intro other member
        obtain ⟨old, there, frozen⟩ := sound.members other member
        obtain ⟨new, there', advance⟩ := set_advanced advances sound found there
        refine ⟨new, there', ?_⟩
        intro setFrozen
        rw [advance.kept (frozen setFrozen)]
        exact frozen setFrozen

theorem editRule_keeps (sound : space.IsSound) (number : Nat) :
    space.Keeps (space.editRule number edit).1 := by
  cases found : space.rules[number]? with
  | none =>
      rw [editRule_missing found]
      exact .refl space
  | some rule =>
      rw [editRule_found found]
      refine .of_set sound rfl ?_
      intro other old there frozen
      obtain ⟨new, there', advance⟩ := set_advanced advances sound found there
      rw [there', advance.kept frozen]

end EditRule

/-- A change to one rule that is refused leaves the other rules and the rule set alone, and of the
rule what the change leaves. -/
theorem editRule_refused {number : Nat} {edit : Rule → Edited Rule} {after : Workspace}
    {cause : RuleError} (refused : space.editRule number edit = (after, .error cause)) :
    ∃ rule left, space.rules[number]? = some rule ∧ edit rule = (left, .error cause) ∧
      after = { space with rules := space.rules.set number left } := by
  cases found : space.rules[number]? with
  | none => simp [editRule_missing found] at refused
  | some rule =>
      rw [editRule_found found] at refused
      obtain ⟨rfl, outcome⟩ := Prod.mk.injEq .. ▸ refused
      exact ⟨rule, (edit rule).1, rfl, by rw [← outcome], rfl⟩

/-- Putting a rule where it stands changes nothing. -/
theorem set_same {number : Nat} {rule : Rule} (found : space.rules[number]? = some rule) :
    { space with rules := space.rules.set number rule } = space := by
  obtain ⟨inside, rfl⟩ := List.getElem?_eq_some_iff.mp found
  rw [List.set_getElem_self]

/-- A refused change that adds no conditions leaves the workspace as it was. -/
theorem editRule_untouched {change : Change} {number : Nat} {edit : Rule → Edited Rule}
    {after : Workspace} {cause : RuleError}
    (leaves : ∀ {rule left : Rule}, edit rule = (left, .error cause) → rule.Leaves [] left cause)
    (refused : space.editRule number edit = (after, .error cause)) :
    space.Refuses change cause after := by
  obtain ⟨rule, left, found, outcome, rfl⟩ := editRule_refused refused
  cases leaves outcome with
  | untouched other same =>
      subst same
      rw [set_same found]
      exact .untouched other
  | part split _ _ => simp at split

/-- A refused change that adds conditions to a rule leaves the rule as it was, or with the
conditions before the first one that does not fit. -/
theorem editRule_part {change : Change} {number : Nat} {given : List Condition}
    {edit : Rule → Edited Rule} {after : Workspace} {cause : RuleError} (sound : space.IsSound)
    (leaves : ∀ {rule left : Rule}, rule.IsSound → edit rule = (left, .error cause) →
      rule.Leaves given left cause)
    (adds : change = .require number given ∨ change = .extendCriteria number given)
    (refused : space.editRule number edit = (after, .error cause)) :
    space.Refuses change cause after := by
  obtain ⟨rule, left, found, outcome, rfl⟩ := editRule_refused refused
  cases leaves (sound.rules rule (List.mem_of_getElem? found)) outcome with
  | untouched other same =>
      subst same
      rw [set_same found]
      exact .untouched other
  | part split mixes grown =>
      subst split grown
      exact .part adds found mixes

/-! ### Changing the rule set -/

/-- Setting the logging flag is refused, or done to a rule set that is not frozen and has none. -/
theorem withLogging_cases (set : RuleSet Nat) (flag : Option Bool) :
    (∃ cause, cause ≠ .mixedCombinators ∧ set.withLogging flag = (set, .error cause)) ∨
      set.frozen = false ∧ set.logging = none ∧
        set.withLogging flag = ({ set with logging := flag }, .ok ()) := by
  rw [RuleSet.withLogging, RuleSet.change]
  split
  · exact .inl ⟨_, by simp, rfl⟩
  · next unset =>
      split
      · exact .inl ⟨_, by simp, rfl⟩
      · next unfrozen => exact .inr ⟨by simpa using unfrozen, by simpa using unset, rfl⟩

/-- Adding a member is refused, or done to a rule set that is not frozen. -/
theorem push_cases (set : RuleSet Nat) (number : Nat) :
    (∃ cause, cause ≠ .mixedCombinators ∧ set.push number = (set, .error cause)) ∨
      set.frozen = false ∧
        set.push number = ({ set with rules := set.rules ++ [number] }, .ok ()) := by
  rw [RuleSet.push, RuleSet.change]
  split
  · exact .inl ⟨_, by simp, rfl⟩
  · next unfrozen => exact .inr ⟨by simpa using unfrozen, rfl⟩

/-- A change of the rule set alone keeps a workspace sound if its members are rules. -/
theorem IsSound.withSet {set : RuleSet Nat} (sound : space.IsSound) (unfrozen : set.frozen = false)
    (members : ∀ number ∈ set.rules, number < space.rules.length) :
    IsSound { space with set } where
  rules := sound.rules
  members number member :=
    ⟨_, List.getElem?_eq_getElem (members number member), by simp [unfrozen]⟩

/-- The members of the rule set are numbers of rules. -/
theorem IsSound.inside {number : Nat} (sound : space.IsSound) (member : number ∈ space.set.rules) :
    number < space.rules.length := by
  obtain ⟨rule, found, _⟩ := sound.members number member
  exact (List.getElem?_eq_some_iff.mp found).1

theorem logging_sound (sound : space.IsSound) (flag : Option Bool) :
    (space.editSet (·.withLogging flag)).1.IsSound := by
  rw [editSet]
  rcases withLogging_cases space.set flag with ⟨cause, _, refused⟩ | ⟨unfrozen, _, done⟩
  · rw [refused]
    exact sound
  · rw [done]
    exact sound.withSet unfrozen fun _ member => sound.inside member

theorem logging_keeps (space : Workspace) (flag : Option Bool) :
    space.Keeps (space.editSet (·.withLogging flag)).1 := by
  rw [editSet]
  rcases withLogging_cases space.set flag with ⟨cause, _, refused⟩ | ⟨unfrozen, unset, done⟩
  · rw [refused]
    exact .refl space
  · rw [done]
    exact .of_unfrozen unfrozen rfl (fun _ _ found _ => found) (by simp [unset])

theorem logging_refuses {flag : Option Bool} {change : Change} {after : Workspace}
    {cause : RuleError} (refused : space.editSet (·.withLogging flag) = (after, .error cause)) :
    space.Refuses change cause after := by
  rw [editSet] at refused
  rcases withLogging_cases space.set flag with ⟨cause', other, same⟩ | ⟨_, _, done⟩
  · rw [same] at refused
    cases refused
    exact .untouched other
  · simp [done] at refused

theorem enlist_sound (sound : space.IsSound) (number : Nat) :
    (space.enlist number).1.IsSound := by
  rw [enlist]
  split
  · next inside =>
      rw [editSet]
      rcases push_cases space.set number with ⟨cause, _, refused⟩ | ⟨unfrozen, done⟩
      · rw [refused]
        exact sound
      · rw [done]
        refine sound.withSet unfrozen ?_
        intro other member
        rcases List.mem_append.mp member with old | new
        · exact sound.inside old
        · rw [List.mem_singleton.mp new]
          exact inside
  · exact sound

theorem enlist_keeps (space : Workspace) (number : Nat) :
    space.Keeps (space.enlist number).1 := by
  rw [enlist]
  split
  · rw [editSet]
    rcases push_cases space.set number with ⟨cause, _, refused⟩ | ⟨unfrozen, done⟩
    · rw [refused]
      exact .refl space
    · rw [done]
      exact .of_unfrozen unfrozen rfl (fun _ _ found _ => found) fun _ given => given
  · exact .refl space

theorem enlist_refuses {number : Nat} {change : Change} {after : Workspace} {cause : RuleError}
    (refused : space.enlist number = (after, .error cause)) :
    space.Refuses change cause after := by
  rw [enlist] at refused
  split at refused
  · rw [editSet] at refused
    rcases push_cases space.set number with ⟨cause', other, same⟩ | ⟨_, done⟩
    · rw [same] at refused
      cases refused
      exact .untouched other
    · simp [done] at refused
  · simp at refused

/-! ### Making and freezing -/

theorem make_sound (sound : space.IsSound) (name : String) (enabled : Bool) (type : Int) :
    IsSound { space with rules := space.rules ++ [{ name, enabled, type }] } where
  rules rule member := by
    rcases List.mem_append.mp member with old | new
    · exact sound.rules rule old
    · rw [List.mem_singleton.mp new]
      exact .fresh name enabled type
  members number member := by
    obtain ⟨rule, found, frozen⟩ := sound.members number member
    refine ⟨rule, ?_, frozen⟩
    rw [List.getElem?_append_left (sound.inside member), found]

theorem make_keeps (sound : space.IsSound) (rule : Rule) :
    space.Keeps { space with rules := space.rules ++ [rule] } := by
  refine .of_set sound rfl ?_
  intro number old found _
  rw [List.getElem?_append_left (List.getElem?_eq_some_iff.mp found).1, found]

/-- What stands at a number after the rule set has been frozen. -/
theorem freezeSet_getElem? {number : Nat} {rule : Rule}
    (found : space.rules[number]? = some rule) :
    space.freezeSet.rules[number]? =
      some (if space.set.rules.contains number then rule.freeze else rule) := by
  rw [freezeSet, List.getElem?_mapIdx, found]
  rfl

theorem freezeSet_sound (sound : space.IsSound) : space.freezeSet.IsSound where
  rules rule member := by
    obtain ⟨number, inside, rfl⟩ := List.mem_mapIdx.mp member
    have old := sound.rules _ (List.getElem_mem inside)
    split
    · exact (Rule.freeze_advances old).sound
    · exact old
  members number member := by
    have inside : space.set.rules.contains number = true := List.contains_iff_mem.mpr member
    obtain ⟨rule, found, _⟩ := sound.members number member
    refine ⟨rule.freeze, ?_, fun _ => rfl⟩
    rw [freezeSet_getElem? found, if_pos inside]

theorem freezeSet_keeps (sound : space.IsSound) : space.Keeps space.freezeSet := by
  have rules : ∀ (number : Nat) (rule : Rule), space.rules[number]? = some rule →
      rule.frozen = true → space.freezeSet.rules[number]? = some rule := by
    intro number rule found frozen
    have same := (Rule.freeze_advances (sound.rules rule (List.mem_of_getElem? found))).kept frozen
    rw [freezeSet_getElem? found, same, ite_self]
  cases frozen : space.set.frozen with
  | true =>
      refine .of_set sound ?_ rules
      rw [freezeSet, ← frozen]
  | false => exact .of_unfrozen frozen rfl rules fun _ given => given

/-! ## One change, and any number of them -/

/-- A change keeps a workspace sound. -/
theorem apply_sound (sound : space.IsSound) (change : Change) : (space.apply change).1.IsSound := by
  cases change with
  | make name enabled type => exact make_sound sound name enabled type
  | rename _ _ | switch _ _ | retype _ _ | act _ _ =>
      exact editRule_sound (fun _ old => Rule.change_advances old rfl rfl) sound _
  | require _ given =>
      exact editRule_sound (fun _ old => Rule.withConditions_advances old given) sound _
  | extendCriteria _ given =>
      exact editRule_sound (fun _ old => Rule.withCriteria_advances old given) sound _
  | freezeRule _ => exact editRule_sound (fun _ old => Rule.freeze_advances old) sound _
  | enlist number => exact enlist_sound sound number
  | logging flag => exact logging_sound sound flag
  | freezeSet => exact freezeSet_sound sound

/-- A change keeps what is frozen or set. -/
theorem apply_keeps (sound : space.IsSound) (change : Change) :
    space.Keeps (space.apply change).1 := by
  cases change with
  | make _ _ _ => exact make_keeps sound _
  | rename _ _ | switch _ _ | retype _ _ | act _ _ =>
      exact editRule_keeps (fun _ old => Rule.change_advances old rfl rfl) sound _
  | require _ given =>
      exact editRule_keeps (fun _ old => Rule.withConditions_advances old given) sound _
  | extendCriteria _ given =>
      exact editRule_keeps (fun _ old => Rule.withCriteria_advances old given) sound _
  | freezeRule _ => exact editRule_keeps (fun _ old => Rule.freeze_advances old) sound _
  | enlist number => exact enlist_keeps space number
  | logging flag => exact logging_keeps space flag
  | freezeSet => exact freezeSet_keeps sound

/-- A refused change leaves everything as it was, or part of the conditions. -/
theorem apply_refuses (sound : space.IsSound) {change : Change} {after : Workspace}
    {cause : RuleError} (refused : space.apply change = (after, .error cause)) :
    space.Refuses change cause after := by
  cases change with
  | make _ _ _ | freezeSet => simp [apply] at refused
  | rename _ _ | switch _ _ | retype _ _ | act _ _ =>
      rw [apply] at refused
      exact editRule_untouched (fun outcome => Rule.change_leaves outcome) refused
  | require _ _ =>
      exact editRule_part sound (fun old => Rule.withConditions_leaves old) (.inl rfl) refused
  | extendCriteria _ _ =>
      exact editRule_part sound (fun old => Rule.withCriteria_leaves old) (.inr rfl) refused
  | freezeRule _ =>
      rw [apply] at refused
      exact editRule_untouched (fun outcome => by simp at outcome) refused
  | enlist _ => exact enlist_refuses refused
  | logging _ => exact logging_refuses refused

/-- A workspace without rules. -/
def start (version : String) (logging : Option Bool) : Workspace := { set := { version, logging } }

/-- What changes made one after the other do, refused ones included. -/
def applyAll (space : Workspace) (changes : List Change) : Workspace :=
  changes.foldl (fun space change => (space.apply change).1) space

theorem start_sound (version : String) (logging : Option Bool) : (start version logging).IsSound :=
  ⟨by simp [start], by simp [start]⟩

theorem applyAll_sound (sound : space.IsSound) (changes : List Change) :
    (space.applyAll changes).IsSound := by
  induction changes generalizing space with
  | nil => exact sound
  | cons change rest ih => exact ih (apply_sound sound change)

theorem applyAll_keeps (sound : space.IsSound) (changes : List Change) :
    space.Keeps (space.applyAll changes) := by
  induction changes generalizing space with
  | nil => exact .refl space
  | cons change rest ih =>
      exact (apply_keeps sound change).trans (ih (apply_sound sound change))

/-- Whatever changes are made, refused ones among them: the conditions of each rule share a
combinator and are frozen if the rule is, the members of a frozen rule set are frozen, later changes
keep what is frozen or set, and a refused change leaves everything as it was, save for the
conditions before the first one of another combinator. -/
theorem changes_disciplined (version : String) (logging : Option Bool) (changes : List Change) :
    let space := (start version logging).applyAll changes
    space.IsSound ∧ (∀ later, space.Keeps (space.applyAll later)) ∧
      ∀ change after cause, space.apply change = (after, .error cause) →
        space.Refuses change cause after := by
  have sound := applyAll_sound (start_sound version logging) changes
  exact ⟨sound, applyAll_keeps sound, fun _ _ _ => apply_refuses sound⟩

end Workspace

end MailFilters
