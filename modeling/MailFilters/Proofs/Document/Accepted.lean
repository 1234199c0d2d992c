import MailFilters.Proofs.Document.Shape

/-!
# The documents that are read

* **`Reads`** — a run of the reader over tokens that ends in a rule set.
* **`Remainder`** — the tokens that may follow inside a rule: more parts, then more blocks.
* **`reads_inRule_sound`**, **`reads_inRule_complete`** — inside a rule the reader takes exactly
  the remainders.
* **`readTokens_eq_ok_iff`** — from the start it takes exactly the documents, each as its rule set.
* **`readDocument_eq_ok_iff`** — the texts that have a rule set, and the rule set that they have.

An action looks one token ahead, so the induction is on pieces of one or two tokens, and no piece
is cut differently because of what follows: no part starts with the value of an action.
-/

namespace MailFilters.Document

open MailFilters.Criteria (Uniform)

/-! ## Runs -/

/-- The reader goes from a draft over some tokens to a rule set. -/
def Reads (draft : Draft) (tokens : List Token) (set : RuleSet Rule) : Prop :=
  ∃ final, (Draft.run draft (entries tokens)).1 = .ok final ∧ final.finish = some set

theorem reads_nil {draft : Draft} {set : RuleSet Rule} :
    Reads draft [] set ↔ draft.finish = some set := by
  constructor
  · rintro ⟨final, ran, finished⟩
    simp only [entries, Draft.run, Except.ok.injEq] at ran
    rw [ran]
    exact finished
  · intro finished
    exact ⟨draft, rfl, finished⟩

theorem run_cons {draft final : Draft} {entry : Entry} {rest : List Entry} :
    (Draft.run draft (entry :: rest)).1 = .ok final ↔
      ∃ next, draft.step entry = .ok next ∧ (Draft.run next rest).1 = .ok final := by
  rw [Draft.run]
  cases draft.step entry with
  | error cause => simp
  | ok next => simp

theorem reads_append {draft : Draft} {entry : Entry} {piece left : List Token}
    {set : RuleSet Rule} (spans : Spans entry piece) (noValue : NoValue left) :
    Reads draft (piece ++ left) set ↔
      ∃ next, draft.step entry = .ok next ∧ Reads next left set := by
  unfold Reads
  rw [entries_append spans noValue]
  constructor
  · rintro ⟨final, ran, finished⟩
    obtain ⟨next, stepped, ran⟩ := run_cons.mp ran
    exact ⟨next, stepped, final, ran, finished⟩
  · rintro ⟨next, stepped, final, ran, finished⟩
    exact ⟨final, run_cons.mpr ⟨next, stepped, ran⟩, finished⟩

/-- The first step of a run takes one piece off its tokens. -/
theorem reads_first {draft : Draft} {token : Token} {rest : List Token} {set : RuleSet Rule}
    (reads : Reads draft (token :: rest) set) :
    ∃ entry piece left next, token :: rest = piece ++ left ∧ Spans entry piece ∧
      draft.step entry = .ok next ∧ Reads next left set := by
  obtain ⟨final, ran, finished⟩ := reads
  obtain ⟨entry, piece, left, equal, spans, split⟩ := entries_cons token rest
  rw [split] at ran
  obtain ⟨next, stepped, ran⟩ := run_cons.mp ran
  exact ⟨entry, piece, left, next, equal, spans, stepped, final, ran, finished⟩

/-! ## Inside a rule -/

/-- What may follow inside a rule: the parts that are left of it, and the blocks behind it. -/
inductive Remainder : List Part → List Block → List Token → Prop
  | done : Remainder [] [] []
  | part {part : Part} {parts : List Part} {blocks : List Block} {piece rest : List Token} :
      PartTokens part piece → Remainder parts blocks rest →
      Remainder (part :: parts) blocks (piece ++ rest)
  | block {name : Token} {parts : List Part} {blocks : List Block} {rest : List Token} :
      name.key = "name" → Uniform (parts.flatMap Part.added) → Remainder parts blocks rest →
      Remainder [] (⟨name.value, parts⟩ :: blocks) (name :: rest)

/-- A rule set that has been read so far, with the rules of more blocks. -/
def withBlocks (set : RuleSet Rule) (blocks : List Block) : RuleSet Rule :=
  { set with rules := set.rules.map Rule.freeze ++ blocks.map Block.rule, frozen := true }

theorem withBlocks_cons (set : RuleSet Rule) (name : String) (parts : List Part)
    (blocks : List Block) :
    withBlocks (closeRule set (parts.foldl Part.apply { name := name })) blocks =
      withBlocks set (⟨name, parts⟩ :: blocks) := by
  have rule := Block.rule_eq ⟨name, parts⟩
  simp only at rule
  simp [withBlocks, closeRule, rule]

theorem PartTokens.head {part : Part} {piece : List Token} (tokens : PartTokens part piece) :
    ∃ token rest, piece = token :: rest ∧ token.key ≠ "actionValue" ∧ token.key ≠ "name" := by
  cases tokens with
  | enabled key _ => exact ⟨_, [], rfl, by simp [key], by simp [key]⟩
  | type key _ => exact ⟨_, [], rfl, by simp [key], by simp [key]⟩
  | bareAction key _ => exact ⟨_, [], rfl, by simp [key], by simp [key]⟩
  | action key _ _ => exact ⟨_, _, rfl, by simp [key], by simp [key]⟩
  | conditions key _ => exact ⟨_, [], rfl, by simp [key], by simp [key]⟩

theorem PartTokens.exists_spans {part : Part} {piece : List Token}
    (tokens : PartTokens part piece) : ∃ entry, Spans entry piece ∧ entry.token.key ≠ "name" := by
  cases tokens with
  | enabled key _ => exact ⟨_, .single _, by simp [key]⟩
  | type key _ => exact ⟨_, .single _, by simp [key]⟩
  | bareAction key _ => exact ⟨_, .single _, by simp [key]⟩
  | action key valueKey _ => exact ⟨_, .pair key valueKey, by simp [key]⟩
  | conditions key _ => exact ⟨_, .single _, by simp [key]⟩

theorem Remainder.noValue {parts : List Part} {blocks : List Block} {tokens : List Token}
    (remainder : Remainder parts blocks tokens) : NoValue tokens := by
  intro token head
  cases remainder with
  | done => simp at head
  | part partTokens _ =>
      obtain ⟨first, rest, rfl, key, _⟩ := partTokens.head
      simp only [List.cons_append, List.head?_cons, Option.some.injEq] at head
      exact head ▸ key
  | block key _ _ =>
      simp only [List.head?_cons, Option.some.injEq] at head
      rw [← head, key]
      simp

/-- **One step inside a rule.** A name closes the rule and starts the next one; any other entry is
a part of the rule. -/
theorem step_inRule {set : RuleSet Rule} {rule : Rule} {next : Draft} (isOpen : IsOpen rule)
    {entry : Entry} {piece : List Token} (spans : Spans entry piece) :
    Draft.step (.inRule set rule) entry = .ok next ↔
      (entry.token.key = "name" ∧
        next = .inRule (closeRule set rule) { name := entry.token.value }) ∨
      (entry.token.key ≠ "name" ∧ ∃ part, PartTokens part piece ∧
        Uniform (rule.criteria.conditions ++ part.added) ∧
        next = .inRule set (part.apply rule)) := by
  rw [Draft.step]
  by_cases named : entry.token.key = "name"
  · rw [if_pos named]
    simp [named, eq_comm]
  · rw [if_neg named]
    have parts := fun result => @stepRule_eq_ok_iff rule result isOpen entry piece spans
    cases stepped : stepRule rule entry with
    | error cause =>
        simp only [Except.map, reduceCtorEq, named, false_and, false_or, false_iff, not_and]
        rintro _ ⟨part, tokens, uniform, _⟩
        have made := (parts _).mpr ⟨part, tokens, uniform, rfl⟩
        rw [stepped] at made
        simp at made
    | ok result =>
        simp only [Except.map, Except.ok.injEq, named, false_and, false_or, not_false_eq_true,
          true_and, ne_eq]
        constructor
        · rintro rfl
          obtain ⟨part, tokens, uniform, rfl⟩ := (parts result).mp stepped
          exact ⟨part, tokens, uniform, rfl⟩
        · rintro ⟨part, tokens, uniform, rfl⟩
          have made := (parts _).mpr ⟨part, tokens, uniform, rfl⟩
          rw [stepped, Except.ok.injEq] at made
          rw [made]

theorem reads_inRule_sound {set result : RuleSet Rule} {rule : Rule} (isOpen : IsOpen rule)
    {tokens : List Token} (reads : Reads (.inRule set rule) tokens result) :
    ∃ parts blocks, Remainder parts blocks tokens ∧
      Uniform (rule.criteria.conditions ++ parts.flatMap Part.added) ∧
      result = withBlocks (closeRule set (parts.foldl Part.apply rule)) blocks := by
  -- pieces may be two tokens long, so the induction is on the number of tokens
  induction size : tokens.length using Nat.strong_induction_on generalizing set rule tokens with
  | _ n ih =>
      cases tokens with
      | nil =>
          refine ⟨[], [], .done, by simpa using isOpen.uniform, ?_⟩
          have finished := reads_nil.mp reads
          simp only [Draft.finish, Option.some.injEq] at finished
          rw [← finished]
          simp [withBlocks, closeRule, RuleSet.freeze]
      | cons token rest =>
          obtain ⟨entry, piece, left, next, equal, spans, stepped, reads⟩ := reads_first reads
          have shorter : left.length < n := by
            have nonempty := spans.nonempty
            have total := congrArg List.length equal
            rw [size, List.length_append] at total
            omega
          rcases (step_inRule isOpen spans).mp stepped with
            ⟨named, rfl⟩ | ⟨_, part, partTokens, uniform, rfl⟩
          -- a name: the rule has no more parts, and the next one starts without conditions
          · obtain ⟨_, rfl⟩ := spans.eq_single (by simp [named])
            obtain ⟨parts, blocks, remainder, uniform, rfl⟩ :=
              ih left.length shorter (IsOpen.start _) reads rfl
            refine ⟨[], ⟨entry.token.value, parts⟩ :: blocks, ?_, by simpa using isOpen.uniform, ?_⟩
            · rw [equal]
              exact .block named (by simpa using uniform) remainder
            · rw [withBlocks_cons]
              rfl
          · obtain ⟨parts, blocks, remainder, uniform', rfl⟩ :=
              ih left.length shorter (isOpen.apply uniform) reads rfl
            refine ⟨part :: parts, blocks, equal ▸ .part partTokens remainder, ?_, rfl⟩
            rw [Part.apply_conditions, List.append_assoc] at uniform'
            exact uniform'

theorem reads_inRule_complete {parts : List Part} {blocks : List Block} {tokens : List Token}
    (remainder : Remainder parts blocks tokens) {set : RuleSet Rule} {rule : Rule}
    (isOpen : IsOpen rule)
    (uniform : Uniform (rule.criteria.conditions ++ parts.flatMap Part.added)) :
    Reads (.inRule set rule) tokens
      (withBlocks (closeRule set (parts.foldl Part.apply rule)) blocks) := by
  induction remainder generalizing set rule with
  | done =>
      rw [reads_nil]
      simp [Draft.finish, withBlocks, closeRule, RuleSet.freeze]
  | @part part parts blocks piece rest partTokens remainder ih =>
      obtain ⟨entry, spans, unnamed⟩ := partTokens.exists_spans
      rw [List.flatMap_cons, ← List.append_assoc] at uniform
      -- the conditions up to here are uniform because those of the whole rule are
      refine (reads_append spans remainder.noValue).mpr ⟨_, (step_inRule isOpen spans).mpr
        (.inr ⟨unnamed, part, partTokens, uniform.of_append, rfl⟩), ?_⟩
      refine ih (isOpen.apply uniform.of_append) ?_
      rw [Part.apply_conditions]
      exact uniform
  | @block name parts blocks rest named uniformParts remainder ih =>
      have spans := Spans.single name
      refine (reads_append spans remainder.noValue).mpr
        ⟨_, (step_inRule isOpen spans).mpr (.inl ⟨named, rfl⟩), ?_⟩
      have reads :=
        @ih (closeRule set rule) _ (IsOpen.start name.value) (by simpa using uniformParts)
      rw [withBlocks_cons] at reads
      exact reads

/-! ## Before the first rule -/

/-- A remainder behind the opening is a list of blocks. -/
theorem Remainder.of_blocks {blocks : List Block} {pieces : List (List Token)}
    (tokens : List.Forall₂ BlockTokens blocks pieces) : Remainder [] blocks pieces.flatten := by
  induction tokens with
  | nil => exact .done
  | @cons block piece blocks pieces first _ ih =>
      cases first with
      | @mk name parts partPieces named partTokens uniform =>
          rw [List.flatten_cons, List.cons_append]
          refine .block named uniform ?_
          clear uniform
          induction partTokens with
          | nil => exact ih
          | cons partTokens _ more =>
              rw [List.flatten_cons, List.append_assoc]
              exact .part partTokens more

theorem Remainder.exists_blocks {parts : List Part} {blocks : List Block} {tokens : List Token}
    (remainder : Remainder parts blocks tokens) :
    ∃ partPieces pieces, List.Forall₂ PartTokens parts partPieces ∧
      List.Forall₂ BlockTokens blocks pieces ∧
      tokens = partPieces.flatten ++ pieces.flatten := by
  induction remainder with
  | done => exact ⟨[], [], .nil, .nil, rfl⟩
  | part partTokens _ ih =>
      obtain ⟨partPieces, pieces, parts, blocks, rfl⟩ := ih
      exact ⟨_ :: partPieces, pieces, .cons partTokens parts, blocks, by simp⟩
  | block named uniform _ ih =>
      obtain ⟨partPieces, pieces, parts, blocks, rfl⟩ := ih
      exact ⟨[], _ :: pieces, .nil, .cons (.mk named parts uniform) blocks, by simp⟩

theorem Remainder.blocks {blocks : List Block} {tokens : List Token}
    (remainder : Remainder [] blocks tokens) :
    ∃ pieces, List.Forall₂ BlockTokens blocks pieces ∧ tokens = pieces.flatten := by
  obtain ⟨partPieces, pieces, parts, blocks, rfl⟩ := remainder.exists_blocks
  cases parts
  exact ⟨pieces, blocks, rfl⟩

theorem step_opened {set : RuleSet Rule} {next : Draft} {entry : Entry} :
    Draft.step (.opened set) entry = .ok next ↔
      (entry.token.key = "name" ∧ next = .inRule set { name := entry.token.value }) ∨
      (entry.token.key = "logging" ∧ set.logging = none ∧ ∃ flag,
        entry.token.value = switchText flag ∧
          next = .opened { set with logging := some flag }) := by
  rw [Draft.step]
  by_cases named : entry.token.key = "name"
  · rw [if_pos named]
    simp [named, eq_comm]
  · rw [if_neg named]
    by_cases refused : entry.token.key ≠ "logging" ∨ set.logging.isSome
    · rw [if_pos refused]
      simp only [reduceCtorEq, named, false_and, false_or, false_iff]
      rintro ⟨key, unset, _⟩
      simp [key, unset] at refused
    · rw [if_neg refused]
      simp only [ne_eq, not_or, not_not, Bool.not_eq_true, Option.isSome_eq_false_iff,
        Option.isNone_iff_eq_none] at refused
      obtain ⟨key, unset⟩ := refused
      simp only [key, unset, Result.bind_eq_ok_iff, Result.pure_eq_ok_iff, readSwitch_eq_ok_iff,
        true_and]
      simp [eq_comm]

/-- Before the first rule stand blocks, or a logging flag if there is none yet. -/
theorem reads_opened_sound {set result : RuleSet Rule} {tokens : List Token}
    (reads : Reads (.opened set) tokens result) :
    (∃ blocks, Remainder [] blocks tokens ∧ result = withBlocks set blocks) ∨
    ∃ token rest flag, tokens = token :: rest ∧ token.key = "logging" ∧ set.logging = none ∧
      token.value = switchText flag ∧
      Reads (.opened { set with logging := some flag }) rest result := by
  cases tokens with
  | nil =>
      have finished := reads_nil.mp reads
      simp only [Draft.finish, Option.some.injEq] at finished
      exact .inl ⟨[], .done, by simp [← finished, withBlocks, RuleSet.freeze]⟩
  | cons token rest =>
      obtain ⟨entry, piece, left, next, equal, spans, stepped, reads⟩ := reads_first reads
      rcases step_opened.mp stepped with ⟨named, rfl⟩ | ⟨key, unset, flag, value, rfl⟩
      · obtain ⟨_, rfl⟩ := spans.eq_single (by simp [named])
        obtain ⟨parts, blocks, remainder, uniform, rfl⟩ :=
          reads_inRule_sound (IsOpen.start _) reads
        refine .inl ⟨⟨entry.token.value, parts⟩ :: blocks, ?_, withBlocks_cons _ _ _ _⟩
        rw [equal]
        exact .block named (by simpa using uniform) remainder
      · obtain ⟨_, rfl⟩ := spans.eq_single (by simp [key])
        exact .inr ⟨entry.token, left, flag, equal, key, unset, value, reads⟩

theorem reads_opened_complete {set : RuleSet Rule} {blocks : List Block} {tokens : List Token}
    (remainder : Remainder [] blocks tokens) :
    Reads (.opened set) tokens (withBlocks set blocks) := by
  cases remainder with
  | done =>
      rw [reads_nil]
      simp [Draft.finish, withBlocks, RuleSet.freeze]
  | @block name parts blocks rest named uniform remainder =>
      refine (reads_append (.single name) remainder.noValue).mpr
        ⟨_, step_opened.mpr (.inl ⟨named, rfl⟩), ?_⟩
      rw [← withBlocks_cons]
      exact reads_inRule_complete remainder (IsOpen.start _) (by simpa using uniform)

/-! ## Whole documents -/

theorem step_blank {next : Draft} {entry : Entry} :
    Draft.step .blank entry = .ok next ↔
      entry.token.key = "version" ∧ entry.token.value = "9" ∧
        next = .opened { version := "9" } := by
  rw [Draft.step, formatVersion]
  by_cases key : entry.token.key = "version"
  · by_cases value : entry.token.value = "9"
    · simp [key, value, eq_comm]
    · simp [key, value]
  · simp [key]

theorem reads_blank_sound {tokens : List Token} {set : RuleSet Rule}
    (reads : Reads .blank tokens set) :
    ∃ outline, OutlineTokens outline tokens ∧ set = outline.ruleSet := by
  cases tokens with
  | nil => simp [reads_nil, Draft.finish] at reads
  | cons token rest =>
      obtain ⟨entry, piece, left, next, equal, spans, stepped, reads⟩ := reads_first reads
      obtain ⟨key, value, rfl⟩ := step_blank.mp stepped
      obtain ⟨_, rfl⟩ := spans.eq_single (by simp [key])
      rw [equal]
      rcases reads_opened_sound reads with
        ⟨blocks, remainder, rfl⟩ | ⟨logging, rest, flag, rfl, loggingKey, _, flagText, reads⟩
      · obtain ⟨pieces, tokens, rfl⟩ := remainder.blocks
        exact ⟨⟨none, blocks⟩, .mk key value .absent tokens, rfl⟩
      -- the flag is set now, so no second one may follow
      · rcases reads_opened_sound reads with ⟨blocks, remainder, rfl⟩ | ⟨_, _, _, _, _, unset, _⟩
        · obtain ⟨pieces, tokens, rfl⟩ := remainder.blocks
          exact ⟨⟨some flag, blocks⟩, .mk key value (.given loggingKey flagText) tokens, rfl⟩
        · simp at unset

theorem reads_blank_complete {outline : Outline} {tokens : List Token}
    (written : OutlineTokens outline tokens) : Reads .blank tokens outline.ruleSet := by
  cases written with
  | @mk version logging loggingTokens blocks pieces key value loggingWritten blocksWritten =>
      have remainder := Remainder.of_blocks blocksWritten
      have opens : Draft.step .blank ⟨version, none⟩ = .ok _ := step_blank.mpr ⟨key, value, rfl⟩
      cases loggingWritten with
      | absent =>
          refine (reads_append (.single version) remainder.noValue).mpr ⟨_, opens, ?_⟩
          exact reads_opened_complete remainder
      | @given logging flag loggingKey flagText =>
          refine (reads_append (.single version) ?_).mpr ⟨_, opens, ?_⟩
          · intro token head
            simp only [List.head?_cons, Option.some.injEq] at head
            simp [← head, loggingKey]
          · refine (reads_append (.single logging) remainder.noValue).mpr
              ⟨_, step_opened.mpr (.inr ⟨loggingKey, rfl, flag, flagText, rfl⟩), ?_⟩
            exact reads_opened_complete remainder

theorem reads_iff {tokens : List Token} {file : Option String} {set : RuleSet Rule} :
    (readTokens tokens file).1 = .ok (some set) ↔ Reads .blank tokens set := by
  unfold readTokens Reads
  cases ran : Draft.run .blank (entries tokens) with
  | mk outcome log =>
      cases outcome with
      | error cause => simp
      | ok draft =>
          cases finished : draft.finish with
          | none => simp [finished]
          | some read => simp [finished]

/-- Tokens have a rule set exactly if they are those of a document. -/
theorem readTokens_eq_ok_iff {tokens : List Token} {file : Option String} {set : RuleSet Rule} :
    (readTokens tokens file).1 = .ok (some set) ↔
      ∃ outline, OutlineTokens outline tokens ∧ set = outline.ruleSet := by
  rw [reads_iff]
  constructor
  · exact reads_blank_sound
  · rintro ⟨outline, written, rfl⟩
    exact reads_blank_complete written

/-- **Acceptance.** A text has a rule set exactly if its lines are the tokens of a document, and
then it is the rule set that the document describes. -/
theorem readDocument_eq_ok_iff (contents : String) (file : Option String) (set : RuleSet Rule) :
    (readDocument contents file).1 = .ok (some set) ↔
      ∃ tokens outline, Token.ofText contents = .ok tokens ∧ OutlineTokens outline tokens ∧
        set = outline.ruleSet := by
  unfold readDocument
  cases tokenized : Token.ofText contents with
  | error cause => simp
  | ok tokens => simp [readTokens_eq_ok_iff]

end MailFilters.Document
