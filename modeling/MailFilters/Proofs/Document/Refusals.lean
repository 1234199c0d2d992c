import MailFilters.Proofs.Action
import MailFilters.Proofs.Condition.Misspelled
import MailFilters.Proofs.Document.Accepted
import MailFilters.Program.Convert

/-!
# The documents that are refused

A document that has no rule set is refused, and a run reports the error and ends.  Some documents
the reader gives up on instead, and a run does not survive that.

* **`Reports`** — the results whose errors are reported.
* **`Overreaches`** — the entries the reader gives up on: a name in a condition that is spelled with
  a letter of no name, and a type or a junk score with too many digits.
* **`GivesUp`** — the documents the reader gives up on: reading reaches such an entry.
* **`readDocument_giveUp_iff`** — these are all.
* **`document_endings`** — the ways in which reading a document ends, and a run with it.
-/

namespace MailFilters

/-- A result whose error, if it is one, is reported. -/
def Reports (result : Except RuleError α) : Prop :=
  ∀ cause, result = .error cause → cause.isReported = true

namespace Reports

theorem ok (value : α) : Reports (.ok value) := by simp [Reports]

theorem error {cause : RuleError} (reported : cause.isReported = true) :
    Reports (.error cause : Except RuleError α) := by
  intro other same
  rw [← Except.error.inj same]
  exact reported

theorem bind {first : Except RuleError α} {next : α → Except RuleError β}
    (reports : Reports first) (after : ∀ value, Reports (next value)) : Reports (first >>= next) := by
  intro cause failed
  rcases Result.bind_eq_error_iff.mp failed with failed | ⟨value, _, failed⟩
  · exact reports cause failed
  · exact after value cause failed

theorem map {first : Except RuleError α} (f : α → β) (reports : Reports first) :
    Reports (first.map f) := by
  cases first with
  | ok value => exact ok (f value)
  | error cause => exact error (reports cause rfl)

/-- A result whose error is not reported is not one of these. -/
theorem absurd {result : Except RuleError α} {cause : RuleError} (reports : Reports result)
    (unreported : cause.isReported = false) : result ≠ .error cause := by
  intro failed
  simp [reports cause failed] at unreported

end Reports

/-! ## Actions -/

theorem Folder.read_reports (value : Option String) : Reports (Folder.read value) := by
  unfold Folder.read
  split
  · exact .error rfl
  · exact .error rfl
  · split
    · exact .ok _
    · exact .error rfl

namespace ActionKind

theorem required_reports (argument : Argument) (value : Option String) :
    Reports (required argument value) := by
  unfold required
  split
  · exact .error rfl
  · exact .error rfl
  · exact .ok _

theorem bare_reports (bareAction : BareAction) (action : Action) (value : Option String) :
    Reports (bare bareAction action value) := by
  cases value with
  | none => exact .ok action
  | some _ => exact .error rfl

/-- The only error in making an action that is not reported is that of a long junk score. -/
theorem make_unreported {kind : ActionKind} {value : Option String} {cause : RuleError}
    (unreported : cause.isReported = false) (failed : kind.make value = .error cause) :
    ∃ text, kind = .junkScore ∧ value = some text ∧ scoreFrom text = .error cause := by
  cases kind with
  | addTag => exact absurd failed (((required_reports _ _).map _).absurd unreported)
  | copyTo => exact absurd failed (((Folder.read_reports _).map _).absurd unreported)
  | moveTo => exact absurd failed (((Folder.read_reports _).map _).absurd unreported)
  | reply => exact absurd failed (((required_reports _ _).map _).absurd unreported)
  | delete => exact absurd failed ((bare_reports _ _ _).absurd unreported)
  | markRead => exact absurd failed ((bare_reports _ _ _).absurd unreported)
  | markFlagged => exact absurd failed ((bare_reports _ _ _).absurd unreported)
  | stopExecution => exact absurd failed ((bare_reports _ _ _).absurd unreported)
  | forward =>
      refine absurd failed (((required_reports _ _).bind ?_).absurd unreported)
      intro recipient
      unfold forwardTo
      split
      · exact .ok _
      · exact .error rfl
  | junkScore =>
      rcases Result.bind_eq_error_iff.mp failed with missing | ⟨text, given, tooLong⟩
      · exact absurd missing ((required_reports _ _).absurd unreported)
      · exact ⟨text, rfl, (Action.required_eq_ok_iff.mp given).1, tooLong⟩

/-- The digits that a text starts with. -/
theorem takeWhile_digits {digits rest : List Char} (all : ∀ c ∈ digits, Text.isDigit c = true)
    (ends : ∀ c, rest.head? = some c → Text.isDigit c = false) :
    (digits ++ rest).takeWhile Text.isDigit = digits := by
  rw [List.takeWhile_append_of_pos all]
  cases rest with
  | nil => simp
  | cons c rest => rw [List.takeWhile_cons_of_neg (by simp [ends c rfl]), List.append_nil]

theorem scoreFrom_unreported_iff {text : String} {cause : RuleError}
    (unreported : cause.isReported = false) :
    scoreFrom text = .error cause ↔
      ∃ digits rest, text.toList = digits ++ rest ∧ (∀ c ∈ digits, Text.isDigit c = true) ∧
        (∀ c, rest.head? = some c → Text.isDigit c = false) ∧ Text.maxDigits < digits.length ∧
        cause = .longNumeral digits.length := by
  constructor
  · intro failed
    unfold scoreFrom at failed
    dsimp only at failed
    split at failed
    · exact absurd failed ((Reports.error rfl).absurd unreported)
    · split at failed
      · simp at failed
      · next count unread =>
          obtain ⟨beyond, rfl⟩ := Text.readNumeral_eq_error_iff.mp unread
          refine ⟨text.toList.takeWhile Text.isDigit, text.toList.dropWhile Text.isDigit,
            List.takeWhile_append_dropWhile.symm, ?_, ?_, beyond, (Except.error.inj failed).symm⟩
          · intro c member
            exact List.all_eq_true.mp List.all_takeWhile c member
          · intro c first
            have stops := List.head?_dropWhile_not Text.isDigit text.toList
            rw [first] at stops
            simpa using stops
  · intro written
    obtain ⟨digits, rest, split, all, ends, long, rfl⟩ := written
    have some_digits : digits.isEmpty = false := by
      cases digits with
      | nil => simp at long
      | cons _ _ => rfl
    have unread := Text.readNumeral_eq_error_iff.mpr ⟨long, rfl⟩
    rw [scoreFrom, split, takeWhile_digits all ends, some_digits, unread]
    rfl

end ActionKind

namespace Document

open MailFilters.Condition (Misspells lookedUp)

/-! ## Entries -/

/-- The entries the reader gives up on: a type or a junk score with too many digits, and conditions
that break off at a misspelled name. -/
inductive Overreaches (entry : Entry) : RuleError → Prop
  | type : entry.token.key = "type" →
      (∀ c ∈ entry.token.value.toList, Text.isAsciiDigit c = true) →
      Text.maxDigits < entry.token.value.toList.length →
      Overreaches entry (.longNumeral entry.token.value.toList.length)
  | score {text : String} {digits rest : List Char} : entry.token.key = "action" →
      ActionKind.ofName? entry.token.value = some .junkScore → entry.value = some text →
      text.toList = digits ++ rest → (∀ c ∈ digits, Text.isDigit c = true) →
      (∀ c, rest.head? = some c → Text.isDigit c = false) → Text.maxDigits < digits.length →
      Overreaches entry (.longNumeral digits.length)
  | condition {word : List Char} : entry.token.key = "condition" →
      Misspells entry.token.value word → Overreaches entry (.unlistedName (lookedUp word))

theorem readSwitch_reports (token : Token) : Reports (readSwitch token) := by
  unfold readSwitch
  split
  · exact .ok _
  · split
    · exact .ok _
    · exact .error rfl

theorem readType_unreported_iff {token : Token} {cause : RuleError}
    (unreported : cause.isReported = false) :
    readType token = .error cause ↔
      (∀ c ∈ token.value.toList, Text.isAsciiDigit c = true) ∧
        Text.maxDigits < token.value.toList.length ∧
        cause = .longNumeral token.value.toList.length := by
  constructor
  · intro failed
    unfold readType at failed
    dsimp only at failed
    split at failed
    · next digits =>
        split at failed
        · next count unread =>
            obtain ⟨beyond, rfl⟩ := Text.readNumeral_eq_error_iff.mp unread
            exact ⟨List.all_eq_true.mp digits.2, beyond, (Except.error.inj failed).symm⟩
        · split at failed
          · simp at failed
          · exact absurd failed ((Reports.error rfl).absurd unreported)
    · exact absurd failed ((Reports.error rfl).absurd unreported)
  · intro written
    obtain ⟨ascii, long, rfl⟩ := written
    have nonempty : token.value.toList ≠ [] := by
      intro empty
      simp [empty] at long
    have unread := Text.readNumeral_eq_error_iff.mpr ⟨long, rfl⟩
    rw [readType, if_pos ⟨nonempty, List.all_eq_true.mpr ascii⟩, unread]

theorem change_reports (rule : Rule) (edit : Rule → Rule) : Reports (rule.change edit).result := by
  unfold Rule.change
  split
  · exact .error rfl
  · exact .ok (edit rule)

theorem extend_reports (criteria : Criteria) (conditions : List Condition) :
    Reports (criteria.extend conditions).2 := by
  induction conditions generalizing criteria with
  | nil => exact .ok ()
  | cons condition rest ih =>
      rw [Criteria.extend]
      cases added : criteria.add condition with
      | ok grown => exact ih grown
      | error cause =>
          unfold Criteria.add at added
          split at added
          · exact .error (by rw [← Except.error.inj added]; rfl)
          · split at added
            · exact .error (by rw [← Except.error.inj added]; rfl)
            · simp at added

theorem withConditions_reports (rule : Rule) (conditions : List Condition) :
    Reports (rule.withConditions conditions).result := by
  have reports := extend_reports rule.criteria conditions
  unfold Rule.withConditions Rule.withCriteria
  split
  · exact .error rfl
  · cases outcome : rule.criteria.extend conditions with
    | mk criteria answer =>
        rw [outcome] at reports
        cases answer with
        | ok _ => exact .ok _
        | error cause => exact .error (reports cause rfl)

/-- What the reader gives up on inside a rule, whatever the rule is. -/
theorem stepRule_unreported_iff {rule : Rule} {entry : Entry} {cause : RuleError}
    (unreported : cause.isReported = false) :
    stepRule rule entry = .error cause ↔ Overreaches entry cause := by
  constructor
  · intro failed
    unfold stepRule at failed
    -- by the key: enabled, type, action, condition, and any other one
    split at failed
    · refine absurd failed (((readSwitch_reports _).bind fun _ => ?_).absurd unreported)
      exact change_reports rule _
    · next key =>
        rcases Result.bind_eq_error_iff.mp failed with unread | ⟨_, _, refused⟩
        · obtain ⟨ascii, long, rfl⟩ := (readType_unreported_iff unreported).mp unread
          exact .type key ascii long
        · exact absurd refused ((change_reports rule _).absurd unreported)
    · next key =>
        rcases Result.bind_eq_error_iff.mp failed with unread | ⟨_, _, refused⟩
        · unfold Action.read at unread
          split at unread
          · exact absurd unread ((Reports.error rfl).absurd unreported)
          · next kind named =>
              obtain ⟨text, rfl, given, tooLong⟩ := ActionKind.make_unreported unreported unread
              obtain ⟨digits, rest, split, all, ends, long, rfl⟩ :=
                (ActionKind.scoreFrom_unreported_iff unreported).mp tooLong
              exact .score key named given split all ends long
        · exact absurd refused ((change_reports rule _).absurd unreported)
    · next key =>
        rcases Result.bind_eq_error_iff.mp failed with unread | ⟨_, _, refused⟩
        · rcases Condition.readConditions_cases entry.token.value with
            ⟨conditions, read⟩ | refused | ⟨word, misspells, broken⟩
          · simp [read] at unread
          · rw [refused] at unread
            exact absurd unread ((Reports.error rfl).absurd unreported)
          · rw [broken, Except.error.injEq] at unread
            rw [← unread]
            exact .condition key misspells
        · exact absurd refused ((withConditions_reports rule _).absurd unreported)
    · exact absurd failed ((Reports.error rfl).absurd unreported)
  · intro overreaches
    cases overreaches with
    | type key ascii long =>
        have unread := (readType_unreported_iff unreported).mpr ⟨ascii, long, rfl⟩
        simp only [stepRule, key, unread]
        rfl
    | @score text digits rest key named given split all ends long =>
        have unread := (ActionKind.scoreFrom_unreported_iff unreported).mpr
          ⟨digits, rest, split, all, ends, long, rfl⟩
        have filled : ActionKind.required .score entry.value = .ok text := by
          refine Action.required_eq_ok_iff.mpr ⟨given, ?_⟩
          rintro rfl
          obtain ⟨rfl, _⟩ := List.append_eq_nil_iff.mp split.symm
          simp at long
        have unmade : Action.read entry.token.value entry.value =
            .error (.longNumeral digits.length) := by
          simp only [Action.read, named, ActionKind.make, filled, bind, Except.bind, unread]
        simp only [stepRule, key, unmade]
        rfl
    | @condition word key misspells =>
        have unread := Condition.readConditions_eq_unlisted_iff.mpr ⟨word, misspells, rfl⟩
        simp only [stepRule, key, unread]
        rfl

/-! ## Runs -/

/-- The reader gives up on a draft and an entry only inside a rule. -/
theorem step_unreported_iff {draft : Draft} {entry : Entry} {cause : RuleError}
    (unreported : cause.isReported = false) :
    draft.step entry = .error cause ↔
      ∃ set rule, draft = .inRule set rule ∧ Overreaches entry cause := by
  constructor
  · intro failed
    cases draft with
    | blank =>
        rw [Draft.step] at failed
        split at failed
        · exact absurd failed ((Reports.error rfl).absurd unreported)
        · split at failed
          · exact absurd failed ((Reports.error rfl).absurd unreported)
          · simp at failed
    | opened set =>
        rw [Draft.step] at failed
        split at failed
        · simp at failed
        · split at failed
          · exact absurd failed ((Reports.error rfl).absurd unreported)
          · refine absurd failed (((readSwitch_reports _).bind fun _ => ?_).absurd unreported)
            exact .ok _
    | inRule set rule =>
        rw [Draft.step] at failed
        split at failed
        · simp at failed
        · cases stepped : stepRule rule entry with
          | ok _ => simp [stepped, Except.map] at failed
          | error other =>
              rw [stepped, Except.map, Except.error.injEq] at failed
              rw [failed] at stepped
              exact ⟨set, rule, rfl, (stepRule_unreported_iff unreported).mp stepped⟩
  · intro written
    obtain ⟨set, rule, rfl, overreaches⟩ := written
    have noName : entry.token.key ≠ "name" := by
      cases overreaches with
      | type key _ _ => simp [key]
      | score key _ _ _ _ _ _ => simp [key]
      | condition key _ => simp [key]
    rw [Draft.step, if_neg noName, (stepRule_unreported_iff unreported).mpr overreaches]
    rfl

/-- A run fails at the first entry whose step fails. -/
theorem run_eq_error_iff {draft : Draft} {entries : List Entry} {cause : RuleError} :
    (Draft.run draft entries).1 = .error cause ↔
      ∃ before entry later middle, entries = before ++ entry :: later ∧
        (Draft.run draft before).1 = .ok middle ∧ middle.step entry = .error cause := by
  induction entries generalizing draft with
  | nil =>
      constructor
      · intro failed
        simp [Draft.run] at failed
      · intro written
        obtain ⟨before, entry, later, _, split, _⟩ := written
        simp at split
  | cons first rest ih =>
      constructor
      · intro failed
        cases stepped : draft.step first with
        | error other =>
            rw [Draft.run, stepped] at failed
            rw [Except.error.inj failed] at stepped
            exact ⟨[], first, rest, draft, rfl, rfl, stepped⟩
        | ok next =>
            rw [Draft.run, stepped] at failed
            obtain ⟨before, entry, later, middle, rfl, ran, last⟩ := ih.mp failed
            exact ⟨first :: before, entry, later, middle, rfl,
              run_cons.mpr ⟨next, stepped, ran⟩, last⟩
      · intro written
        obtain ⟨before, entry, later, middle, split, ran, last⟩ := written
        cases before with
        | nil =>
            obtain ⟨rfl, rfl⟩ := List.cons.injEq .. ▸ split
            simp only [Draft.run, Except.ok.injEq] at ran
            rw [Draft.run, ran, last]
        | cons head before =>
            obtain ⟨rfl, rfl⟩ := List.cons.injEq .. ▸ split
            obtain ⟨next, stepped, ran⟩ := run_cons.mp ran
            rw [Draft.run, stepped]
            exact ih.mpr ⟨before, entry, later, middle, rfl, ran, last⟩

/-! ## Documents -/

/-- Reading a document reaches an entry inside a rule. -/
def Reaches (contents : String) (entry : Entry) : Prop :=
  ∃ tokens before later set rule, Token.ofText contents = .ok tokens ∧
    entries tokens = before ++ entry :: later ∧
    (Draft.run .blank before).1 = .ok (.inRule set rule)

/-- The reader gives up on a document: it reaches an entry that it gives up on. -/
def GivesUp (contents : String) (cause : RuleError) : Prop :=
  ∃ entry, Reaches contents entry ∧ Overreaches entry cause

theorem Overreaches.unreported {entry : Entry} {cause : RuleError}
    (overreaches : Overreaches entry cause) : cause.isReported = false := by
  cases overreaches <;> rfl

theorem ofLines_reports (number : Nat) (lines : List (List Char)) :
    Reports (Token.ofLines number lines) := by
  induction lines generalizing number with
  | nil => exact .ok []
  | cons line rest ih =>
      rw [Token.ofLines]
      split
      · exact ih (number + 1)
      · refine .bind ?_ fun token => .bind (ih (number + 1)) fun tokens => .ok _
        unfold Token.ofLine
        split
        · exact .ok _
        · exact .error rfl

theorem readTokens_eq_error_iff {tokens : List Token} {file : Option String} {cause : RuleError} :
    (readTokens tokens file).1 = .error cause ↔
      (Draft.run .blank (entries tokens)).1 = .error cause := by
  unfold readTokens
  cases ran : Draft.run .blank (entries tokens) with
  | mk outcome log =>
      cases outcome with
      | error other => simp
      | ok draft => cases finished : draft.finish <;> simp [finished]

/-- **Giving up.** The errors of reading a document that are not reported are those of the entries
the reader gives up on. -/
theorem readDocument_giveUp_iff {contents : String} {file : Option String} {cause : RuleError}
    (unreported : cause.isReported = false) :
    (readDocument contents file).1 = .error cause ↔ GivesUp contents cause := by
  unfold readDocument
  cases tokenized : Token.ofText contents with
  | error other =>
      constructor
      · intro failed
        have reports := ofLines_reports 1 (Text.lines contents.toList)
        rw [← Except.error.inj failed, reports other tokenized] at unreported
        simp at unreported
      · intro written
        obtain ⟨_, ⟨_, _, _, _, _, read, _⟩, _⟩ := written
        simp [tokenized] at read
  | ok tokens =>
      rw [readTokens_eq_error_iff, run_eq_error_iff]
      constructor
      · intro failed
        obtain ⟨before, entry, later, middle, split, ran, last⟩ := failed
        obtain ⟨set, rule, rfl, overreaches⟩ := (step_unreported_iff unreported).mp last
        exact ⟨entry, ⟨tokens, before, later, set, rule, tokenized, split, ran⟩, overreaches⟩
      · intro written
        obtain ⟨entry, ⟨tokens', before, later, set, rule, read, split, ran⟩, overreaches⟩ := written
        obtain rfl : tokens = tokens' := Except.ok.inj (tokenized.symm.trans read)
        exact ⟨before, entry, later, _, split, ran,
          (step_unreported_iff unreported).mpr ⟨set, rule, rfl, overreaches⟩⟩

/-- What a run makes of a file that has no rule set. -/
theorem convert_refused {files : Files} {name : String} {cause : RuleError} (mode : Mode)
    (showOnly : Bool) (session : Session) (failed : (readNamed files name).1 = .error cause) :
    (convert files name mode showOnly session).1 =
      if cause.isReported then .ok { exitCode := 2 } else .error (.invalid cause) := by
  unfold convert
  cases read : readNamed files name with
  | mk outcome log =>
      rw [read] at failed
      obtain rfl : outcome = .error cause := failed
      dsimp only
      by_cases reported : cause.isReported = true
      · rw [if_pos reported, if_pos reported]
        rfl
      · rw [if_neg reported, if_neg reported]
        rfl

/-- **Endings.** The reader gives up on the documents that reach an entry it gives up on, and a run
does not survive that.  Any other document has no entries, or a rule set, or is refused with an error
that a run reports with exit code 2; conditions that are none are refused with their whole text. -/
theorem document_endings (contents : String) (file : Option String) :
    (∀ cause, (readDocument contents file).1 = .error cause ∧ cause.isReported = false ↔
      GivesUp contents cause) ∧
    ((∀ cause, ¬ GivesUp contents cause) →
      (readDocument contents file).1 = .ok none ∨
        (∃ set, (readDocument contents file).1 = .ok (some set)) ∨
        ∃ cause, (readDocument contents file).1 = .error cause ∧ cause.isReported = true) ∧
    (∀ entry, Reaches contents entry → entry.token.key = "condition" →
      (∀ conditions, Condition.readConditions entry.token.value ≠ .ok conditions) →
      (∀ word, ¬ Misspells entry.token.value word) →
      ∃ cause, (readDocument contents file).1 = .error cause ∧
        cause = .invalidConditions entry.token.value ∧
        cause.message = "Invalid condition string: " ++ entry.token.value) ∧
    ∀ (files : Files) (name : String) (bytes : List UInt8) (cause : RuleError) (mode : Mode)
      (showOnly : Bool) (session : Session), files.find? name = some bytes →
      decodeFile name bytes = .ok contents →
      (readDocument contents (some name)).1 = .error cause →
      (convert files name mode showOnly session).1 =
        if cause.isReported then .ok { exitCode := 2 } else .error (.invalid cause) := by
  refine ⟨?_, ?_, ?_, ?_⟩
  · intro cause
    constructor
    · intro ending
      exact (readDocument_giveUp_iff ending.2).mp ending.1
    · intro givesUp
      obtain ⟨entry, reached, overreaches⟩ := givesUp
      have unreported := overreaches.unreported
      exact ⟨(readDocument_giveUp_iff unreported).mpr ⟨entry, reached, overreaches⟩, unreported⟩
  · intro goesOn
    rcases outcome : (readDocument contents file).1 with cause | (_ | set)
    · refine .inr (.inr ⟨cause, rfl, ?_⟩)
      by_contra unreported
      rw [Bool.not_eq_true] at unreported
      exact goesOn cause ((readDocument_giveUp_iff unreported).mp outcome)
    · exact .inl rfl
    · exact .inr (.inl ⟨set, rfl⟩)
  · intro entry reached key unread spelled
    obtain ⟨tokens, before, later, set, rule, tokenized, split, ran⟩ := reached
    have refused : Condition.readConditions entry.token.value =
        .error (.invalidConditions entry.token.value) := by
      rcases Condition.readConditions_cases entry.token.value with
        ⟨conditions, read⟩ | refused | ⟨word, misspells, _⟩
      · exact absurd read (unread conditions)
      · exact refused
      · exact absurd misspells (spelled word)
    have stepped : Draft.step (.inRule set rule) entry =
        .error (.invalidConditions entry.token.value) := by
      simp only [Draft.step, key, stepRule, refused]
      rfl
    refine ⟨_, ?_, rfl, rfl⟩
    rw [readDocument, tokenized]
    exact readTokens_eq_error_iff.mpr
      (run_eq_error_iff.mpr ⟨before, entry, later, _, split, ran, stepped⟩)
  · intro files name bytes cause mode showOnly session found decoded failed
    refine convert_refused mode showOnly session ?_
    rw [readNamed, found]
    simp only [decoded]
    exact failed

/-- A run does not survive a field whose first letter is a long s. -/
theorem longS_endsRun :
    let contents := "version=\"9\"\nname=\"a\"\ncondition=\"AND (ſubject,contains,x)\""
    let cause := RuleError.unlistedName "ſubject"
    (readDocument contents none).1 = .error cause ∧ cause.isReported = false ∧
      (convert [("rules.dat", contents.toUTF8.toList)] "rules.dat" .real false
        { account := {} }).1 = .error (.invalid cause) := by
  decide +kernel

end Document

end MailFilters
