import MailFilters.Document.Reader
import MailFilters.Proofs.Condition.Uniform
import MailFilters.Proofs.Flags
import Mathlib.Data.List.Forall2

/-!
# The shape of rules documents

Which token sequences are rules documents and what they describe, stated without the reader, and
the reader against it.

* **`OutlineTokens`** — the token sequences that describe an outline: a version, perhaps a logging
  flag, and blocks of parts.
* **`Outline.ruleSet`** — the rule set of an outline; the last switch and the last type of a block
  count, and its actions and conditions add up.
* **`stepRule_eq_ok_iff`** — what one part does to the rule that is being read.
-/

namespace MailFilters.Document

open MailFilters.Criteria (Uniform)

/-! ## Documents as token sequences -/

/-- What one part of a rule says. -/
inductive Part
  | enabled (flag : Bool)
  | type (mask : Nat)
  | action (action : Action)
  | conditions (conditions : List Condition)

/-- A rule from its name to the next name. -/
structure Block where
  name : String
  parts : List Part

/-- What a document says. -/
structure Outline where
  logging : Option Bool
  blocks : List Block

/-- The text of a switch. -/
def switchText : Bool → String
  | true => "yes"
  | false => "no"

/-- ASCII digits, no more than a numeral may have, for a union of type flags. -/
def IsMask (digits : List Char) : Prop :=
  1 ≤ digits.length ∧ digits.length ≤ 4300 ∧ (∀ c ∈ digits, Text.isAsciiDigit c = true) ∧
    FlagTable.IsUnion typeFlags (Text.decimalValue digits)

/-- The tokens that say a part: one, or two for an action with a value. -/
inductive PartTokens : Part → List Token → Prop
  | enabled {token : Token} {flag : Bool} :
      token.key = "enabled" → token.value = switchText flag → PartTokens (.enabled flag) [token]
  | type {token : Token} :
      token.key = "type" → IsMask token.value.toList →
      PartTokens (.type (Text.decimalValue token.value.toList)) [token]
  | bareAction {token : Token} {action : Action} :
      token.key = "action" → Action.read token.value none = .ok action →
      PartTokens (.action action) [token]
  | action {token next : Token} {action : Action} :
      token.key = "action" → next.key = "actionValue" →
      Action.read token.value (some next.value) = .ok action →
      PartTokens (.action action) [token, next]
  | conditions {token : Token} {conditions : List Condition} :
      token.key = "condition" → Condition.readConditions token.value = .ok conditions →
      PartTokens (.conditions conditions) [token]

/-- The switch that a part sets. -/
def Part.enabled? : Part → Option Bool
  | .enabled flag => some flag
  | _ => none

/-- The type that a part sets. -/
def Part.type? : Part → Option Int
  | .type mask => some mask
  | _ => none

/-- The action that a part adds. -/
def Part.action? : Part → Option Action
  | .action given => some given
  | _ => none

/-- The conditions that a part adds. -/
def Part.added : Part → List Condition
  | .conditions listed => listed
  | _ => []

/-- The conditions of a block. -/
def Block.conditions (block : Block) : List Condition := block.parts.flatMap Part.added

/-- The rule that a block describes: of several switches or types the last one counts. -/
def Block.rule (block : Block) : Rule where
  name := block.name
  enabled := (block.parts.filterMap Part.enabled?).getLast?.getD false
  type := (block.parts.filterMap Part.type?).getLast?.getD 0
  criteria := { conditions := block.conditions, frozen := true }
  actions := block.parts.filterMap Part.action?
  frozen := true

/-- The tokens of a block: its name and those of its parts, in any order. -/
inductive BlockTokens : Block → List Token → Prop
  | mk {name : Token} {parts : List Part} {pieces : List (List Token)} :
      name.key = "name" → List.Forall₂ PartTokens parts pieces →
      Uniform (parts.flatMap Part.added) →
      BlockTokens ⟨name.value, parts⟩ (name :: pieces.flatten)

/-- The tokens of a logging flag, which may be absent. -/
inductive LoggingTokens : Option Bool → List Token → Prop
  | absent : LoggingTokens none []
  | given {token : Token} {flag : Bool} :
      token.key = "logging" → token.value = switchText flag → LoggingTokens (some flag) [token]

/-- The tokens of a document. -/
inductive OutlineTokens : Outline → List Token → Prop
  | mk {version : Token} {logging : Option Bool} {loggingTokens : List Token}
      {blocks : List Block} {pieces : List (List Token)} :
      version.key = "version" → version.value = "9" → LoggingTokens logging loggingTokens →
      List.Forall₂ BlockTokens blocks pieces →
      OutlineTokens ⟨logging, blocks⟩ (version :: (loggingTokens ++ pieces.flatten))

/-- The rule set that a document describes. -/
def Outline.ruleSet (outline : Outline) : RuleSet Rule where
  version := "9"
  logging := outline.logging
  rules := outline.blocks.map Block.rule
  frozen := true

/-! ## Values -/

theorem readSwitch_eq_ok_iff {token : Token} {flag : Bool} :
    readSwitch token = .ok flag ↔ token.value = switchText flag := by
  unfold readSwitch
  by_cases yes : token.value = "yes"
  · rw [if_pos yes, yes]
    cases flag <;> simp [switchText]
  · rw [if_neg yes]
    by_cases no : token.value = "no"
    · rw [if_pos no, no]
      cases flag <;> simp [switchText]
    · rw [if_neg no]
      cases flag <;> simp [switchText, yes, no]

theorem readType_eq_ok_iff {token : Token} {type : Int} :
    readType token = .ok type ↔
      IsMask token.value.toList ∧ type = Text.decimalValue token.value.toList := by
  unfold readType IsMask
  by_cases digits : token.value.toList ≠ [] ∧ token.value.toList.all Text.isAsciiDigit
  · have nonempty : 1 ≤ token.value.toList.length := List.length_pos_iff.mpr digits.1
    have ascii := List.all_eq_true.mp digits.2
    rw [if_pos digits, Text.readNumeral, Text.maxDigits]
    by_cases short : token.value.toList.length ≤ 4300
    · rw [if_pos short]
      -- the reader only asks whether names cover the mask, and that is whether it is a union
      have masks := @FlagTable.cover_typeFlags (Text.decimalValue token.value.toList : Nat)
      cases covered : FlagTable.cover typeFlags (Text.decimalValue token.value.toList : Nat) with
      | ok names =>
          have union := masks.mp ⟨names, covered⟩
          simp only [covered, Except.ok.injEq]
          constructor
          · rintro rfl
            exact ⟨⟨nonempty, short, ascii, union⟩, rfl⟩
          · rintro ⟨_, rfl⟩
            rfl
      | error cause =>
          simp only [covered, reduceCtorEq, false_iff]
          rintro ⟨⟨_, _, _, union⟩, _⟩
          obtain ⟨names, given⟩ := masks.mpr union
          rw [covered] at given
          simp at given
    · rw [if_neg short]
      simp [short]
  · rw [if_neg digits]
    simp only [reduceCtorEq, false_iff]
    rintro ⟨⟨nonempty, _, ascii, _⟩, _⟩
    exact digits ⟨List.length_pos_iff.mp nonempty, List.all_eq_true.mpr ascii⟩

/-! ## What a part does to a rule -/

/-- A rule with what a part says. -/
def Part.apply (rule : Rule) : Part → Rule
  | .enabled flag => { rule with enabled := flag }
  | .type mask => { rule with type := mask }
  | .action given => { rule with actions := rule.actions ++ [given] }
  | .conditions listed =>
    { rule with
      criteria := { rule.criteria with conditions := rule.criteria.conditions ++ listed } }

/-- A rule that may still change and whose conditions share a combinator. -/
structure IsOpen (rule : Rule) : Prop where
  unfrozen : rule.frozen = false
  criteriaUnfrozen : rule.criteria.frozen = false
  uniform : Uniform rule.criteria.conditions

theorem IsOpen.start (name : String) : IsOpen { name := name } := ⟨rfl, rfl, Uniform.nil⟩

theorem Part.apply_conditions (rule : Rule) (part : Part) :
    (part.apply rule).criteria.conditions = rule.criteria.conditions ++ part.added := by
  cases part <;> simp [apply, added]

theorem IsOpen.apply {rule : Rule} (isOpen : IsOpen rule) {part : Part}
    (uniform : Uniform (rule.criteria.conditions ++ part.added)) : IsOpen (part.apply rule) := by
  refine ⟨?_, ?_, by rw [Part.apply_conditions]; exact uniform⟩
  · cases part <;> exact isOpen.unfrozen
  · cases part <;> exact isOpen.criteriaUnfrozen

theorem Rule.change_result {rule : Rule} (unfrozen : rule.frozen = false) (edit : Rule → Rule) :
    (rule.change edit).result = .ok (edit rule) := by
  simp [Rule.change, unfrozen, Edited.result]

theorem Rule.withConditions_eq_ok_iff {rule result : Rule} (isOpen : IsOpen rule)
    {conditions : List Condition} :
    (rule.withConditions conditions).result = .ok result ↔
      Uniform (rule.criteria.conditions ++ conditions) ∧
        result = (Part.conditions conditions).apply rule := by
  have extended := fun criteria => @Criteria.extend_eq_ok_iff rule.criteria criteria conditions
    isOpen.criteriaUnfrozen isOpen.uniform
  unfold Rule.withConditions Rule.withCriteria
  rw [if_neg (by simp [isOpen.unfrozen])]
  cases outcome : rule.criteria.extend conditions with
  | mk criteria answer =>
      cases answer with
      | ok _ =>
          obtain ⟨uniform, rfl⟩ := (extended criteria).mp outcome
          simp [Edited.result, uniform, Part.apply, eq_comm]
      | error cause =>
          simp only [Edited.result, reduceCtorEq, false_iff, not_and]
          intro uniform
          have grown := (extended _).mpr ⟨uniform, rfl⟩
          rw [outcome] at grown
          simp at grown

/-- The parts of a block one after the other make the rule that the block describes. -/
theorem foldl_apply_freeze (rule : Rule) (parts : List Part) :
    (parts.foldl Part.apply rule).freeze =
      { name := rule.name
        enabled := (parts.filterMap Part.enabled?).getLast?.getD rule.enabled
        type := (parts.filterMap Part.type?).getLast?.getD rule.type
        criteria := { conditions := rule.criteria.conditions ++ parts.flatMap Part.added
                      frozen := true }
        actions := rule.actions ++ parts.filterMap Part.action?
        frozen := true } := by
  -- the rule is general: each part changes what the parts behind it start from
  induction parts generalizing rule with
  | nil => simp [Rule.freeze, Criteria.freeze]
  | cons part rest ih =>
      rw [List.foldl_cons, ih]
      cases part <;>
        simp only [Part.apply, List.filterMap_cons, Part.enabled?, Part.type?, Part.action?,
          List.flatMap_cons, Part.added, List.getLast?_cons, Option.getD_some, List.nil_append,
          List.append_assoc, List.singleton_append]

theorem Block.rule_eq (block : Block) :
    (block.parts.foldl Part.apply { name := block.name }).freeze = block.rule := by
  rw [foldl_apply_freeze]
  rfl

/-! ## Entries and tokens -/

/-- The tokens that an entry takes in: its own, and the value of an action behind it. -/
inductive Spans : Entry → List Token → Prop
  | single (token : Token) : Spans ⟨token, none⟩ [token]
  | pair {token next : Token} :
      token.key = "action" → next.key = "actionValue" → Spans ⟨token, some next.value⟩ [token, next]

/-- Tokens that do not start with the value of an action. -/
def NoValue (tokens : List Token) : Prop :=
  ∀ token, tokens.head? = some token → token.key ≠ "actionValue"

theorem entries_cons (token : Token) (rest : List Token) :
    ∃ entry piece left, token :: rest = piece ++ left ∧ Spans entry piece ∧
      entries (token :: rest) = entry :: entries left := by
  cases rest with
  | nil => exact ⟨_, _, [], rfl, .single token, rfl⟩
  | cons next rest =>
      by_cases paired : token.key = "action" ∧ next.key = "actionValue"
      · refine ⟨_, _, rest, rfl, .pair paired.1 paired.2, ?_⟩
        rw [entries, if_pos paired]
      · refine ⟨_, _, next :: rest, rfl, .single token, ?_⟩
        rw [entries, if_neg paired]

/-- A piece is one entry if no value of an action stands behind it. -/
theorem entries_append {entry : Entry} {piece left : List Token} (spans : Spans entry piece)
    (noValue : NoValue left) : entries (piece ++ left) = entry :: entries left := by
  cases spans with
  | single token =>
      cases left with
      | nil => rfl
      | cons next rest =>
          rw [List.singleton_append, entries, if_neg]
          exact fun paired => noValue next rfl paired.2
  | pair action value =>
      rw [List.cons_append, List.singleton_append, entries, if_pos ⟨action, value⟩]

theorem Spans.nonempty {entry : Entry} {piece : List Token} (spans : Spans entry piece) :
    0 < piece.length := by
  cases spans <;> simp

theorem Spans.eq_single {entry : Entry} {piece : List Token} (spans : Spans entry piece)
    (other : entry.token.key ≠ "action") : entry = ⟨entry.token, none⟩ ∧ piece = [entry.token] := by
  cases spans with
  | single token => exact ⟨rfl, rfl⟩
  | pair action _ => exact absurd action other

/-! ## Steps -/

/-- **One part.** What the reader does with an entry that is no name is what a part says whose
tokens the entry takes in; anything else is an error. -/
theorem stepRule_eq_ok_iff {rule result : Rule} (isOpen : IsOpen rule) {entry : Entry}
    {piece : List Token} (spans : Spans entry piece) :
    stepRule rule entry = .ok result ↔
      ∃ part, PartTokens part piece ∧ Uniform (rule.criteria.conditions ++ part.added) ∧
        result = part.apply rule := by
  -- parts that are no conditions add none, and what is there is uniform already
  have same : Uniform (rule.criteria.conditions ++ []) := by simpa using isOpen.uniform
  constructor
  · intro stepped
    unfold stepRule at stepped
    split at stepped
    · next key =>
        obtain ⟨flag, value, finish⟩ := Result.bind_eq_ok_iff.mp stepped
        obtain ⟨_, rfl⟩ := spans.eq_single (by simp [key])
        rw [Rule.withEnabled, Rule.change_result isOpen.unfrozen, Except.ok.injEq] at finish
        exact ⟨_, .enabled key (readSwitch_eq_ok_iff.mp value), same, finish.symm⟩
    · next key =>
        obtain ⟨type, value, finish⟩ := Result.bind_eq_ok_iff.mp stepped
        obtain ⟨_, rfl⟩ := spans.eq_single (by simp [key])
        obtain ⟨mask, rfl⟩ := readType_eq_ok_iff.mp value
        rw [Rule.withType, Rule.change_result isOpen.unfrozen, Except.ok.injEq] at finish
        exact ⟨_, .type key mask, same, finish.symm⟩
    · next key =>
        obtain ⟨action, value, finish⟩ := Result.bind_eq_ok_iff.mp stepped
        rw [Rule.withAction, Rule.change_result isOpen.unfrozen, Except.ok.injEq] at finish
        cases spans with
        | single token => exact ⟨_, .bareAction key value, same, finish.symm⟩
        | pair _ valueKey => exact ⟨_, .action key valueKey value, same, finish.symm⟩
    · next key =>
        obtain ⟨conditions, value, finish⟩ := Result.bind_eq_ok_iff.mp stepped
        obtain ⟨_, rfl⟩ := spans.eq_single (by simp [key])
        obtain ⟨uniform, rfl⟩ := (Rule.withConditions_eq_ok_iff isOpen).mp finish
        exact ⟨_, .conditions key value, uniform, rfl⟩
    · simp at stepped
  · rintro ⟨part, tokens, uniform, rfl⟩
    cases tokens with
    | enabled key value =>
        cases spans
        simp only [stepRule, key, readSwitch_eq_ok_iff.mpr value, Rule.withEnabled]
        exact Rule.change_result isOpen.unfrozen _
    | type key mask =>
        cases spans
        simp only [stepRule, key, readType_eq_ok_iff.mpr ⟨mask, rfl⟩, Rule.withType]
        exact Rule.change_result isOpen.unfrozen _
    | bareAction key read =>
        cases spans
        simp only [stepRule, key, read, Rule.withAction]
        exact Rule.change_result isOpen.unfrozen _
    | action key valueKey read =>
        cases spans
        simp only [stepRule, key, read, Rule.withAction]
        exact Rule.change_result isOpen.unfrozen _
    | conditions key read =>
        cases spans
        simp only [stepRule, key, read]
        exact (Rule.withConditions_eq_ok_iff isOpen).mpr ⟨uniform, rfl⟩

end MailFilters.Document
