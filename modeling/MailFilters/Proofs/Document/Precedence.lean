import MailFilters.Proofs.Document.Accepted
import MailFilters.Proofs.Recognition

/-!
# Which error comes first

A document with a line that is not recognized is refused for the first such line, whatever else is
wrong.  Any other document is refused for the first wrong entry, and no text behind it changes that:
only the value of an action may still come after its token.

* **`Completes`** — the tokens of a text start with the value of the action that another one ends in.
* **`entries_joined`** — otherwise the entries of two texts are those of the one and of the other.
* **`run_append_of_error`** — a run that fails does not get to later entries.
* **`readDocument_precedence`** — the error of a document, and what stays of it when the document
  goes on.
-/

namespace MailFilters.Document

open MailFilters.Token (AllWellFormed IsWellFormed joinedBy)

/-- The first of some tokens is the value of an action that is the last of the tokens before. -/
def Completes (others own : List Token) : Prop :=
  (∃ value, others.head? = some value ∧ value.key = "actionValue") ∧
    ∃ action, own.getLast? = some action ∧ action.key = "action"

/-- Tokens that are not pulled into the last entry before them have their own entries. -/
theorem entries_joined {own others : List Token} (apart : ¬ Completes others own) :
    entries (own ++ others) = entries own ++ entries others := by
  -- an action takes in the token behind it, so the induction is on the pieces of the entries
  induction own using entries.induct with
  | case1 => rfl
  | case2 token =>
      cases others with
      | nil => rfl
      | cons next rest =>
          show entries (token :: next :: rest) = ⟨token, none⟩ :: entries (next :: rest)
          rw [entries, if_neg]
          rintro ⟨action, value⟩
          exact apart ⟨⟨next, rfl, value⟩, token, rfl, action⟩
  | case3 token next rest paired ih =>
      rw [List.cons_append, List.cons_append, entries, if_pos paired, entries, if_pos paired, ih]
      · rfl
      · rintro ⟨value, action, last, key⟩
        exact apart ⟨value, action, by simp [List.getLast?_cons, last], key⟩
  | case4 token next rest alone ih =>
      rw [List.cons_append, List.cons_append, entries, if_neg alone, entries, if_neg alone,
        ← List.cons_append, ih]
      · rfl
      · rintro ⟨value, action, last, key⟩
        exact apart ⟨value, action, by rw [List.getLast?_cons_cons, last], key⟩

theorem run_append_of_error {draft : Draft} {first : List Entry} {cause : RuleError} {log : Log}
    (failed : Draft.run draft first = (.error cause, log)) (second : List Entry) :
    Draft.run draft (first ++ second) = (.error cause, log) := by
  induction first generalizing draft log with
  | nil => simp [Draft.run] at failed
  | cons entry first ih =>
      rw [List.cons_append]
      cases stepped : draft.step entry with
      | error other =>
          rw [Draft.run, stepped] at failed ⊢
          exact failed
      | ok next =>
          cases ran : Draft.run next first with
          | mk result notes =>
              simp only [Draft.run, stepped, ran] at failed
              obtain ⟨rfl, rfl⟩ := Prod.mk.inj failed
              simp only [Draft.run, stepped, ih ran]

/-- Tokens that are refused stay refused, for the same reason and with the same log, whatever stands
behind them. -/
theorem readTokens_append {own others : List Token} {file : Option String} {cause : RuleError}
    (failed : (readTokens own file).1 = .error cause) (apart : ¬ Completes others own) :
    readTokens (own ++ others) file = readTokens own file := by
  cases ran : Draft.run .blank (entries own) with
  | mk result log =>
      rw [readTokens, ran] at failed
      cases result with
      | error other =>
          rw [readTokens, entries_joined apart, run_append_of_error ran, readTokens, ran]
      | ok draft => cases finished : draft.finish <;> simp [finished] at failed

theorem readDocument_of_tokens {contents : String} {tokens : List Token}
    (tokenized : Token.ofText contents = .ok tokens) (file : Option String) :
    readDocument contents file = readTokens tokens file := by
  rw [readDocument, tokenized]

/-- **Precedence.** A document with lines that are not well formed is refused for the first of them,
before anything is read.  A document of well-formed lines that is refused for another reason is
refused just so when more well-formed lines follow, unless these start with the value of an action
that the document ends in. -/
theorem readDocument_precedence (contents : String) (file : Option String) :
    (¬ AllWellFormed contents →
      ∃ before line after, Text.lines contents.toList = before ++ line :: after ∧
        (∀ earlier ∈ before, IsWellFormed earlier) ∧ ¬ IsWellFormed line ∧
        readDocument contents file =
          (.error (.unrecognizedLine (before.length + 1) (String.ofList line)), [])) ∧
    ∀ (added : String) (lineBreak : Text.Break), AllWellFormed contents → AllWellFormed added →
      ∃ own others, Token.ofText contents = .ok own ∧ Token.ofText added = .ok others ∧
        ∀ cause, (readDocument contents file).1 = .error cause → ¬ Completes others own →
          readDocument (joinedBy lineBreak contents added) file = readDocument contents file := by
  constructor
  · intro malformed
    have bad : ∃ line ∈ Text.lines contents.toList, ¬ IsWellFormed line := by
      simpa [AllWellFormed] using malformed
    obtain ⟨before, line, after, split, formed, first, refused⟩ := Token.ofLines_malformed 1 bad
    refine ⟨before, line, after, split, formed, first, ?_⟩
    rw [readDocument, Token.ofText, refused, Nat.add_comm]
  · intro added lineBreak formed formedAdded
    obtain ⟨own, others, moved, readOwn, readOthers, joined, pairs⟩ :=
      Token.ofText_joined lineBreak formed formedAdded
    refine ⟨own, others, readOwn, readOthers, ?_⟩
    intro cause failed apart
    -- what was added is numbered on, which makes no difference to its keys
    have apart' : ¬ Completes moved own := by
      rintro ⟨⟨value, head, key⟩, action⟩
      have first := congrArg List.head? pairs
      rw [List.head?_map, List.head?_map, head] at first
      obtain ⟨other, isFirst, same⟩ := Option.map_eq_some_iff.mp first.symm
      exact apart ⟨⟨other, isFirst, (congrArg Prod.fst same).trans key⟩, action⟩
    rw [readDocument_of_tokens readOwn] at failed ⊢
    rw [readDocument_of_tokens joined]
    exact readTokens_append failed apart'

/-- A line that is not recognized behind an unsupported version, and an action without its value at
the end of a document. -/
theorem readDocument_precedence_forward :
    let broken := "version=\"8\"\r\rbad\nworse"
    let contents := "version=\"9\"\nname=\"a\"\n action = \"Forward\"\r"
    let added := "\nenabled=\"maybe\""
    (∃ before line after, Text.lines broken.toList = before ++ line :: after ∧
      (∀ earlier ∈ before, IsWellFormed earlier) ∧ ¬ IsWellFormed line ∧
      readDocument broken none =
        (.error (.unrecognizedLine (before.length + 1) (String.ofList line)), [])) ∧
    readDocument (joinedBy .lineFeed contents added) none = readDocument contents none ∧
    (readDocument contents none).1 = .error (.missingArgument .recipient) := by
  intro broken contents added
  have failed : (readDocument contents none).1 = .error (.missingArgument .recipient) := by
    decide +kernel
  obtain ⟨own, others, _, readOthers, stays⟩ :=
    (readDocument_precedence contents none).2 added .lineFeed (by decide +kernel)
      (by decide +kernel)
  have apart : ¬ Completes others own := by
    rintro ⟨⟨value, head, key⟩, _⟩
    have tokens : Token.ofText added = .ok [⟨2, "enabled", "maybe"⟩] := by decide +kernel
    rw [Except.ok.inj (readOthers.symm.trans tokens)] at head
    rw [← Option.some.inj head] at key
    simp at key
  exact ⟨(readDocument_precedence broken none).1 (by decide +kernel), stays _ failed apart, failed⟩

/-- The value of an action mends a document that is refused without it. -/
example : (readDocument (joinedBy .both "version=\"9\"\nname=\"a\"\naction=\"Forward\""
    "actionValue=\"a@b.com\"") none).1.isOk = true := by
  decide +kernel

end MailFilters.Document
