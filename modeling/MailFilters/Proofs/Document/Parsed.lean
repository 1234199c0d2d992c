import MailFilters.Document.File
import MailFilters.Filter.Rejection
import MailFilters.Proofs.Document.Accepted

/-!
# Rule sets that were read

What the reader leaves of a document: nothing if there are no tokens, and otherwise rules that can
be shown.

* **`Rule.HasNames`** — the type of a rule has names, and so the rule can be shown
  (`Rule.HasNames.text`, `RuleSet.text_of_names`, `Rejection.text_of_names`).
* **`readNamed_names`** — the rules that were read from a file can be shown.
* **`readNamed_none_iff`** — the files that no rule set is read from.
-/

namespace MailFilters

/-! ## Rules that can be shown -/

/-- The type of a rule has names. -/
def Rule.HasNames (rule : Rule) : Prop := ∃ names, rule.flagNames = .ok names

theorem Rule.HasNames.text {rule : Rule} (named : rule.HasNames) :
    ∃ text, rule.text = .ok text := by
  obtain ⟨names, found⟩ := named
  rw [Rule.text, Rule.shownLines, found]
  exact ⟨_, rfl⟩

theorem Rule.HasNames.texts {rules : List Rule} (named : ∀ rule ∈ rules, rule.HasNames) :
    ∃ texts, rules.mapM Rule.text = .ok texts :=
  Result.exists_mapM_eq_ok fun rule member => (named rule member).text

/-- A rule set can be shown if its rules can. -/
theorem RuleSet.text_of_names {set : RuleSet Rule} (named : ∀ rule ∈ set.rules, rule.HasNames) :
    ∃ text, set.text = .ok text := by
  obtain ⟨texts, shown⟩ := Rule.HasNames.texts named
  rw [RuleSet.text]
  split
  · exact ⟨_, rfl⟩
  · rw [shown]
    exact ⟨_, rfl⟩

/-- A rejection can be shown if its rule can. -/
theorem Rejection.text_of_names {rejection : Rejection} {rule : Rule} (named : rule.HasNames)
    (about : rejection.rule = some rule) : ∃ text, rejection.text = .ok text := by
  obtain ⟨shown, found⟩ := named.text
  rw [Rejection.text, about]
  simp only [found]
  exact ⟨_, rfl⟩

namespace Document

/-! ## Rules that were read -/

/-- The type of a part, if it has one, has names. -/
def Part.HasNames (part : Part) : Prop :=
  ∀ type, part.type? = some type → ∃ names, FlagTable.cover typeFlags type = .ok names

theorem PartTokens.names {part : Part} {piece : List Token} (tokens : PartTokens part piece) :
    part.HasNames := by
  intro type given
  cases tokens with
  | type _ mask =>
      rw [← Option.some.inj given]
      exact FlagTable.cover_typeFlags.mpr mask.2.2.2
  | enabled _ _ => simp [Part.type?] at given
  | conditions _ _ => simp [Part.type?] at given
  | bareAction _ _ => simp [Part.type?] at given
  | action _ _ _ => simp [Part.type?] at given

/-- The rule of a block: its type is that of one of its parts or zero. -/
theorem Block.rule_names {block : Block} (parts : ∀ part ∈ block.parts, part.HasNames) :
    block.rule.HasNames := by
  have covered : ∃ names, FlagTable.cover typeFlags block.rule.type = .ok names := by
    rw [Block.rule]
    cases last : (block.parts.filterMap Part.type?).getLast? with
    -- zero has no flags, and so their names are none
    | none => exact ⟨_, rfl⟩
    | some type =>
        obtain ⟨part, inside, given⟩ := List.mem_filterMap.mp (List.mem_of_getLast? last)
        exact parts part inside type given
  exact covered

theorem BlockTokens.names {block : Block} {piece : List Token} (tokens : BlockTokens block piece) :
    block.rule.HasNames := by
  cases tokens with
  | mk _ partTokens _ =>
      have named := partTokens.imp fun part piece tokens =>
        (⟨PartTokens.names tokens, tokens⟩ : part.HasNames ∧ PartTokens part piece)
      exact Block.rule_names ((List.forall₂_and_left _ _).mp named).1

theorem OutlineTokens.names {outline : Outline} {tokens : List Token}
    (written : OutlineTokens outline tokens) : ∀ rule ∈ outline.ruleSet.rules, rule.HasNames := by
  cases written with
  | mk _ _ _ blockTokens =>
      intro rule member
      obtain ⟨block, inside, rfl⟩ := List.mem_map.mp member
      have named := blockTokens.imp fun block piece tokens =>
        (⟨BlockTokens.names tokens, tokens⟩ : block.rule.HasNames ∧ BlockTokens block piece)
      exact ((List.forall₂_and_left _ _).mp named).1 block inside

variable {files : Files} {name : String} {set : RuleSet Rule}

/-- The types of the rules that were read from a file have names. -/
theorem readNamed_names (read : (readNamed files name).1 = .ok (some set)) :
    ∀ rule ∈ set.rules, rule.HasNames := by
  unfold readNamed readDocument at read
  split at read
  · simp at read
  · split at read
    · simp at read
    · split at read
      · simp at read
      · obtain ⟨outline, written, rfl⟩ := readTokens_eq_ok_iff.mp read
        exact written.names

/-! ## Documents without tokens -/

/-- Every entry starts a rule set or goes on with one. -/
theorem step_finishes {draft next : Draft} {entry : Entry} (stepped : draft.step entry = .ok next) :
    next.finish.isSome = true := by
  cases draft with
  | blank =>
      obtain ⟨_, _, rfl⟩ := step_blank.mp stepped
      rfl
  | opened set =>
      rcases step_opened.mp stepped with ⟨_, rfl⟩ | ⟨_, _, _, _, rfl⟩ <;> rfl
  | inRule set rule =>
      rw [Draft.step] at stepped
      split at stepped
      · obtain rfl := Except.ok.inj stepped
        rfl
      · cases inside : stepRule rule entry with
        | error cause =>
            rw [inside] at stepped
            simp [Except.map] at stepped
        | ok result =>
            rw [inside] at stepped
            obtain rfl := Except.ok.inj stepped
            rfl

theorem run_finishes {draft final : Draft} {entries : List Entry}
    (ran : (Draft.run draft entries).1 = .ok final)
    (begun : entries ≠ [] ∨ draft.finish.isSome = true) : final.finish.isSome = true := by
  induction entries generalizing draft with
  | nil =>
      obtain rfl : draft = final := Except.ok.inj ran
      exact begun.resolve_left (by simp)
  | cons entry rest ih =>
      obtain ⟨next, stepped, others⟩ := run_cons.mp ran
      exact ih others (.inr (step_finishes stepped))

theorem readTokens_none_iff {tokens : List Token} {file : Option String} :
    (readTokens tokens file).1 = .ok none ↔ tokens = [] := by
  constructor
  · intro read
    cases tokens with
    | nil => rfl
    | cons token rest =>
        obtain ⟨entry, piece, left, _, _, split⟩ := entries_cons token rest
        rw [readTokens] at read
        cases ran : Draft.run .blank (entries (token :: rest)) with
        | mk outcome log =>
            rw [ran] at read
            cases outcome with
            | error cause => simp at read
            | ok draft =>
                -- there is an entry, so that the draft is not the blank one
                have finished : draft.finish.isSome = true :=
                  run_finishes (congrArg Prod.fst ran) (.inl (by simp [split]))
                obtain ⟨set, finish⟩ := Option.isSome_iff_exists.mp finished
                simp [finish] at read
  · rintro rfl
    rfl

/-- A file whose text has no tokens. -/
def HoldsNoTokens (files : Files) (name : String) : Prop :=
  ∃ bytes contents, files.find? name = some bytes ∧ decodeFile name bytes = .ok contents ∧
    Token.ofText contents = .ok []

/-- No rule set is read from the files without tokens. -/
theorem readNamed_none_iff : (readNamed files name).1 = .ok none ↔ HoldsNoTokens files name := by
  unfold readNamed readDocument HoldsNoTokens
  cases found : files.find? name with
  | none => simp
  | some bytes =>
      cases decoded : decodeFile name bytes with
      | error cause => simp [decoded]
      | ok contents =>
          cases tokenized : Token.ofText contents with
          | error cause => simp [decoded, tokenized]
          | ok tokens => simp [decoded, tokenized, readTokens_none_iff]

end Document

end MailFilters
