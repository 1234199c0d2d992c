import MailFilters.Proofs.Action
import MailFilters.Proofs.Condition.Written
import MailFilters.Proofs.Document.Accepted
import MailFilters.Proofs.Token

/-!
# Writing documents

* **`write`** — a rule set as a document: one line for each token, and for each rule its name, its
  switch, its type, its actions and its conditions.
* **`IsWritable`** — the rule sets that a document can hold.
* **`read_write`** — the document of a rule set is read as that rule set.
-/

namespace MailFilters.Document

open MailFilters.Criteria (Uniform)
open MailFilters.Text (IsLine)
open MailFilters.Token (IsKey Pair linesText pair)

/-! ## Lines -/

/-- The lines of an action: its name, and its value if it has one. -/
def actionPairs (action : Action) : List Pair :=
  match action.valueText with
  | none => [("action", Action.nativeName action.kind)]
  | some value => [("action", Action.nativeName action.kind), ("actionValue", value)]

/-- The lines of a part of a rule. -/
def partPairs : Part → List Pair
  | .enabled flag => [("enabled", switchText flag)]
  | .type mask => [("type", Text.decimal mask)]
  | .action given => actionPairs given
  | .conditions listed => [("condition", String.ofList (Condition.conditionsText listed))]

/-- The lines of a block. -/
def blockPairs (block : Block) : List Pair :=
  ("name", block.name) :: block.parts.flatMap partPairs

/-- The line of a logging flag, if it is set. -/
def loggingPairs : Option Bool → List Pair
  | none => []
  | some flag => [("logging", switchText flag)]

/-- The lines of a document. -/
def outlinePairs (outline : Outline) : List Pair :=
  ("version", "9") :: (loggingPairs outline.logging ++ outline.blocks.flatMap blockPairs)

/-! ## Rule sets -/

/-- The one part for conditions, if there are any. -/
def conditionParts : List Condition → List Part
  | [] => []
  | first :: rest => [.conditions (first :: rest)]

/-- What is written of a rule. -/
def ruleParts (rule : Rule) : List Part :=
  .enabled rule.enabled :: .type rule.type.toNat ::
    (rule.actions.map .action ++ conditionParts rule.criteria.conditions)

/-- What is written of a rule set. -/
def outlineOf (set : RuleSet Rule) : Outline where
  logging := set.logging
  blocks := set.rules.map fun rule => ⟨rule.name, ruleParts rule⟩

/-- A rule set as a document. -/
def write (set : RuleSet Rule) : String :=
  String.ofList (linesText (outlinePairs (outlineOf set)))

/-- Rules that can be written: a name of one line, a type within the table, actions and conditions
that can be written. -/
structure IsWritableRule (rule : Rule) : Prop where
  name : IsLine rule.name.toList
  type : 0 ≤ rule.type ∧ rule.type < 2 ^ 9
  actions : ∀ action ∈ rule.actions, action.IsWritable
  conditions : ∀ condition ∈ rule.criteria.conditions, condition.IsWritable
  uniform : Uniform rule.criteria.conditions

/-- Rule sets that can be written. -/
structure IsWritable (set : RuleSet Rule) : Prop where
  version : set.version = "9"
  rules : ∀ rule ∈ set.rules, IsWritableRule rule

/-! ## What is written of a rule set describes it -/

theorem actionParts_eq (actions : List Action) :
    (actions.map Part.action).filterMap Part.enabled? = [] ∧
      (actions.map Part.action).filterMap Part.type? = [] ∧
      (actions.map Part.action).filterMap Part.action? = actions ∧
      (actions.map Part.action).flatMap Part.added = [] := by
  induction actions with
  | nil => exact ⟨rfl, rfl, rfl, rfl⟩
  | cons action rest ih =>
      obtain ⟨enabled, type, kept, added⟩ := ih
      exact ⟨enabled, type, congrArg (action :: ·) kept, added⟩

theorem conditionParts_eq (conditions : List Condition) :
    (conditionParts conditions).filterMap Part.enabled? = [] ∧
      (conditionParts conditions).filterMap Part.type? = [] ∧
      (conditionParts conditions).filterMap Part.action? = [] ∧
      (conditionParts conditions).flatMap Part.added = conditions := by
  cases conditions with
  | nil => exact ⟨rfl, rfl, rfl, rfl⟩
  | cons first rest => exact ⟨rfl, rfl, rfl, List.append_nil _⟩

/-- What is written of a rule says its switch, its type, its actions and its conditions once. -/
theorem ruleParts_eq (rule : Rule) :
    (ruleParts rule).filterMap Part.enabled? = [rule.enabled] ∧
      (ruleParts rule).filterMap Part.type? = [(rule.type.toNat : Int)] ∧
      (ruleParts rule).filterMap Part.action? = rule.actions ∧
      (ruleParts rule).flatMap Part.added = rule.criteria.conditions := by
  obtain ⟨enabled, type, kept, added⟩ := actionParts_eq rule.actions
  obtain ⟨enabled', type', kept', added'⟩ := conditionParts_eq rule.criteria.conditions
  simp only [ruleParts, List.filterMap_cons, List.flatMap_cons, List.filterMap_append,
    List.flatMap_append, Part.enabled?, Part.type?, Part.action?, Part.added, enabled, type, kept,
    added, enabled', type', kept', added', List.append_nil, List.nil_append, and_self]

theorem ruleParts_rule {rule : Rule} (positive : 0 ≤ rule.type) :
    Block.rule ⟨rule.name, ruleParts rule⟩ = rule.freeze := by
  obtain ⟨enabled, type, kept, added⟩ := ruleParts_eq rule
  have mask : ((rule.type.toNat : Nat) : Int) = rule.type := Int.toNat_of_nonneg positive
  simp only [Block.rule, Block.conditions, enabled, type, kept, added, mask,
    List.getLast?_singleton, Option.getD_some]
  rfl

theorem outlineOf_ruleSet {set : RuleSet Rule} (writable : IsWritable set) :
    (outlineOf set).ruleSet = set.freeze := by
  have rules : (set.rules.map fun rule => (⟨rule.name, ruleParts rule⟩ : Block)).map Block.rule =
      set.rules.map Rule.freeze := by
    rw [List.map_map]
    exact List.map_congr_left fun rule member => ruleParts_rule (writable.rules rule member).type.1
  rw [Outline.ruleSet, outlineOf, rules, RuleSet.freeze, writable.version]

/-! ## Parts -/

/-- Parts that can be written. -/
def Part.IsWritable : Part → Prop
  | .enabled _ => True
  | .type mask => mask < 2 ^ 9
  | .action given => given.IsWritable
  | .conditions listed => listed ≠ [] ∧ ∀ condition ∈ listed, condition.IsWritable

/-- The keys of documents. -/
def keys : List String :=
  ["version", "logging", "name", "enabled", "type", "action", "actionValue", "condition"]

theorem keys_areKeys : ∀ key ∈ keys,
    key ≠ "" ∧ key.toList.all (fun c => !Text.isBlank c && c != '=') = true := by decide

theorem isKey_of_mem {key : String} (member : key ∈ keys) : IsKey key := by
  obtain ⟨nonempty, solid⟩ := keys_areKeys key member
  exact ⟨nonempty, fun c inside => by simpa using List.all_eq_true.mp solid c inside⟩

theorem switchText_isLine (flag : Bool) : IsLine (switchText flag).toList := by
  cases flag <;> exact .of_all (by decide)

theorem partPairs_lines {part : Part} (writable : part.IsWritable) :
    ∀ line ∈ partPairs part, IsKey line.1 ∧ IsLine line.2.toList := by
  intro line member
  cases part with
  | enabled flag =>
      obtain rfl := List.mem_singleton.mp member
      exact ⟨isKey_of_mem (by simp [keys]), switchText_isLine flag⟩
  | type mask =>
      obtain rfl := List.mem_singleton.mp member
      refine ⟨isKey_of_mem (by simp [keys]), ?_⟩
      rw [Text.decimal, String.toList_ofList]
      exact Text.numeral_isLine mask
  | action given =>
      have name := Action.nativeName_isLine given.kind
      have lines := @Action.valueText_isLine given writable
      -- the value decides whether there is a second line
      simp only [partPairs, actionPairs] at member
      cases value : given.valueText with
      | none =>
          rw [value] at member
          obtain rfl := List.mem_singleton.mp member
          exact ⟨isKey_of_mem (by simp [keys]), name⟩
      | some value' =>
          rw [value] at member
          rcases List.mem_cons.mp member with rfl | second
          · exact ⟨isKey_of_mem (by simp [keys]), name⟩
          · obtain rfl := List.mem_singleton.mp second
            exact ⟨isKey_of_mem (by simp [keys]), lines value⟩
  | conditions listed =>
      obtain rfl := List.mem_singleton.mp member
      refine ⟨isKey_of_mem (by simp [keys]), ?_⟩
      rw [String.toList_ofList]
      exact Condition.conditionsText_isLine writable.2

theorem numeral_isMask {mask : Nat} (small : mask < 2 ^ 9) : IsMask (Text.numeral mask) := by
  have short : (Text.numeral mask).length ≤ 3 := Text.numeral_length_le (by omega) (by decide)
  refine ⟨List.length_pos_iff.mpr (Text.numeral_nonempty mask), by omega, Text.numeral_digits mask,
    ?_⟩
  rw [Text.decimalValue_numeral]
  exact FlagTable.isUnion_of_small small

theorem partTokens_of_pairs {part : Part} (writable : part.IsWritable) {tokens : List Token}
    (pairs : tokens.map pair = partPairs part) : PartTokens part tokens := by
  cases part with
  | enabled flag =>
      obtain ⟨token, rfl, same⟩ := List.map_eq_singleton_iff.mp pairs
      exact .enabled (congrArg Prod.fst same) (congrArg Prod.snd same)
  | type mask =>
      obtain ⟨token, rfl, same⟩ := List.map_eq_singleton_iff.mp pairs
      have digits : token.value.toList = Text.numeral mask := by
        rw [show token.value = Text.decimal mask from congrArg Prod.snd same, Text.decimal,
          String.toList_ofList]
      have tokens := PartTokens.type (congrArg Prod.fst same)
        (show IsMask token.value.toList from digits ▸ numeral_isMask writable)
      rwa [digits, Text.decimalValue_numeral] at tokens
  | action given =>
      have read := Action.read_written writable
      simp only [partPairs, actionPairs] at pairs
      cases value : given.valueText with
      | none =>
          rw [value] at pairs read
          obtain ⟨token, rfl, same⟩ := List.map_eq_singleton_iff.mp pairs
          refine .bareAction (congrArg Prod.fst same) ?_
          rw [show token.value = _ from congrArg Prod.snd same]
          exact read
      | some value' =>
          rw [value] at pairs read
          obtain ⟨token, rest, rfl, same, behind⟩ := List.map_eq_cons_iff.mp pairs
          obtain ⟨next, rfl, same'⟩ := List.map_eq_singleton_iff.mp behind
          refine .action (congrArg Prod.fst same) (congrArg Prod.fst same') ?_
          rw [show token.value = _ from congrArg Prod.snd same,
            show next.value = _ from congrArg Prod.snd same']
          exact read
  | conditions listed =>
      obtain ⟨token, rfl, same⟩ := List.map_eq_singleton_iff.mp pairs
      refine .conditions (congrArg Prod.fst same) ?_
      rw [show token.value = _ from congrArg Prod.snd same]
      exact Condition.readConditions_conditionsText writable.1 writable.2

/-! ## Documents -/

theorem exists_pieces {α : Type} {relation : α → List Token → Prop} {lines : α → List Pair}
    {items : List α} (each : ∀ item ∈ items, ∀ tokens : List Token,
      tokens.map pair = lines item → relation item tokens)
    {tokens : List Token} (pairs : tokens.map pair = items.flatMap lines) :
    ∃ pieces, List.Forall₂ relation items pieces ∧ tokens = pieces.flatten := by
  induction items generalizing tokens with
  | nil => exact ⟨[], .nil, List.map_eq_nil_iff.mp pairs⟩
  | cons item rest ih =>
      obtain ⟨piece, left, rfl, first, behind⟩ := List.map_eq_append_iff.mp pairs
      obtain ⟨pieces, related, rfl⟩ :=
        ih (fun other member => each other (List.mem_cons_of_mem _ member)) behind
      exact ⟨piece :: pieces, .cons (each item List.mem_cons_self piece first) related, rfl⟩

theorem ruleParts_writable {rule : Rule} (writable : IsWritableRule rule) :
    ∀ part ∈ ruleParts rule, part.IsWritable := by
  have small : rule.type.toNat < 2 ^ 9 := by
    obtain ⟨positive, below⟩ := writable.type
    omega
  intro part member
  -- a switch, a type, the actions, and conditions if there are any
  rcases List.mem_cons.mp member with rfl | member
  · trivial
  rcases List.mem_cons.mp member with rfl | member
  · exact small
  rcases List.mem_append.mp member with inside | inside
  · obtain ⟨action, listed, rfl⟩ := List.mem_map.mp inside
    exact writable.actions action listed
  · have all := writable.conditions
    cases listed : rule.criteria.conditions with
    | nil => simp [listed, conditionParts] at inside
    | cons first rest =>
        rw [listed] at inside all
        obtain rfl := List.mem_singleton.mp inside
        exact ⟨by simp, all⟩

theorem blockTokens_of_pairs {rule : Rule} (writable : IsWritableRule rule) {tokens : List Token}
    (pairs : tokens.map pair = blockPairs ⟨rule.name, ruleParts rule⟩) :
    BlockTokens ⟨rule.name, ruleParts rule⟩ tokens := by
  obtain ⟨name, rest, rfl, same, behind⟩ := List.map_eq_cons_iff.mp pairs
  obtain ⟨pieces, parts, rfl⟩ := exists_pieces (fun part member tokens =>
    partTokens_of_pairs (ruleParts_writable writable part member)) behind
  have uniform : Uniform ((ruleParts rule).flatMap Part.added) := by
    rw [(ruleParts_eq rule).2.2.2]
    exact writable.uniform
  have block := BlockTokens.mk (congrArg Prod.fst same) parts uniform
  rwa [show name.value = rule.name from congrArg Prod.snd same] at block

theorem outlineTokens_of_pairs {set : RuleSet Rule} (writable : IsWritable set)
    {tokens : List Token} (pairs : tokens.map pair = outlinePairs (outlineOf set)) :
    OutlineTokens (outlineOf set) tokens := by
  obtain ⟨version, rest, rfl, same, behind⟩ := List.map_eq_cons_iff.mp pairs
  obtain ⟨logging, left, rfl, flag, rules⟩ := List.map_eq_append_iff.mp behind
  have loggingTokens : LoggingTokens set.logging logging := by
    cases given : set.logging with
    | none =>
        rw [outlineOf, given] at flag
        rw [List.map_eq_nil_iff.mp flag]
        exact .absent
    | some value =>
        rw [outlineOf, given] at flag
        obtain ⟨token, rfl, same'⟩ := List.map_eq_singleton_iff.mp flag
        exact .given (congrArg Prod.fst same') (congrArg Prod.snd same')
  obtain ⟨pieces, blocks, rfl⟩ := @exists_pieces _ BlockTokens _ _ (fun block member tokens => by
    obtain ⟨rule, listed, rfl⟩ := List.mem_map.mp member
    exact blockTokens_of_pairs (writable.rules rule listed)) _ rules
  exact .mk (congrArg Prod.fst same) (congrArg Prod.snd same) loggingTokens blocks

theorem outlinePairs_lines {set : RuleSet Rule} (writable : IsWritable set) :
    ∀ line ∈ outlinePairs (outlineOf set), IsKey line.1 ∧ IsLine line.2.toList := by
  intro line member
  rcases List.mem_cons.mp member with rfl | member
  · exact ⟨isKey_of_mem (by simp [keys]), .of_all (by decide)⟩
  rcases List.mem_append.mp member with logging | rules
  · cases given : (outlineOf set).logging with
    | none =>
        rw [given] at logging
        simp [loggingPairs] at logging
    | some flag =>
        rw [given] at logging
        obtain rfl := List.mem_singleton.mp logging
        exact ⟨isKey_of_mem (by simp [keys]), switchText_isLine flag⟩
  · obtain ⟨block, member, inside⟩ := List.mem_flatMap.mp rules
    obtain ⟨rule, listed, rfl⟩ := List.mem_map.mp member
    rcases List.mem_cons.mp inside with rfl | inside
    · exact ⟨isKey_of_mem (by simp [keys]), (writable.rules rule listed).name⟩
    · obtain ⟨part, member, inside⟩ := List.mem_flatMap.mp inside
      have writablePart := ruleParts_writable (writable.rules rule listed) part member
      exact partPairs_lines writablePart line inside

/-- **Round trip.** The document of a rule set is read as that rule set. -/
theorem read_write {set : RuleSet Rule} (writable : IsWritable set) (file : Option String) :
    (readDocument (write set) file).1 = .ok (some set.freeze) := by
  obtain ⟨tokens, tokenized, pairs⟩ := Token.ofText_written (outlinePairs_lines writable)
  rw [readDocument, write, tokenized]
  exact readTokens_eq_ok_iff.mpr
    ⟨outlineOf set, outlineTokens_of_pairs writable pairs, (outlineOf_ruleSet writable).symm⟩

/-- A rule set with quotes, separators and parentheses where its document has its own. -/
def sample : RuleSet Rule where
  version := "9"
  logging := some false
  rules :=
    [{ name := "a=\"b\" \\"
       enabled := true
       type := 17
       criteria :=
         { conditions :=
             [⟨.or, .field .subject, .contains, "x\", \"y"⟩,
               ⟨.or, .header "X-List", .is, "a, (b) OR (to,is,c)"⟩] }
       actions := [.moveTo ⟨"mail.host", some 143, "jo@süd", ["Archive", "2024/01"]⟩, .markRead] }]

theorem sample_isWritable : IsWritable sample := by
  have folder : Folder.IsWritable ⟨"mail.host", some 143, "jo@süd", ["Archive", "2024/01"]⟩ := by
    refine ⟨List.all_eq_true.mp (by decide), ?_, by decide, by decide⟩
    rintro port ⟨⟩
    decide
  have bare : Condition.IsWritable ⟨.or, .field .subject, .contains, "x\", \"y"⟩ := by
    refine ⟨by simp, .of_all (by decide), .inr ⟨by decide, ?_⟩⟩
    rintro c ⟨⟩
    decide
  have quoted : Condition.IsWritable ⟨.or, .header "X-List", .is, "a, (b) OR (to,is,c)"⟩ := by
    refine ⟨?_, .of_all (by decide), .inl (by decide)⟩
    rintro name ⟨⟩
    exact ⟨by decide, .of_all (by decide)⟩
  refine ⟨rfl, ?_⟩
  intro rule member
  obtain rfl := List.mem_singleton.mp member
  refine ⟨.of_all (by decide), by decide, ?_, ?_, .or, by decide⟩
  · intro action listed
    rcases List.mem_cons.mp listed with rfl | listed
    · exact folder
    · obtain rfl := List.mem_singleton.mp listed
      trivial
  · intro condition listed
    rcases List.mem_cons.mp listed with rfl | listed
    · exact bare
    · obtain rfl := List.mem_singleton.mp listed
      exact quoted

theorem read_write_sample :
    IsWritable sample ∧ (readDocument (write sample) none).1 = .ok (some sample.freeze) :=
  ⟨sample_isWritable, read_write sample_isWritable none⟩

end MailFilters.Document
