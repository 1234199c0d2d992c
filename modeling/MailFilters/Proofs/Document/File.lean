import Mathlib.Data.List.Basic
import MailFilters.Document.File
import MailFilters.Proofs.Text.Lines
import MailFilters.Proofs.Text.Utf8

/-!
# Reading from a file

A file is decoded and its line breaks are unified before its text is read; a text that is at hand is
read as it is.  Both come to the same.

* **`ofText_unifyBreaks`** — the tokens of a text are the same with unified breaks.
* **`closing`** — the last line of the log, the only one that tells where a text came from.
* **`readNamed_encoded`** — the file with the bytes of a text is read as the text is.
-/

namespace MailFilters

/-- The tokens of a text, or its first line that is none, are the same with unified breaks. -/
theorem Token.ofText_unifyBreaks (contents : String) :
    Token.ofText (String.ofList (Text.unifyBreaks contents.toList)) = Token.ofText contents := by
  rw [Token.ofText, String.toList_ofList, Text.lines_unifyBreaks, ← Token.ofText]

namespace Document

/-- What the log says at the end of reading a document from a file or from elsewhere. -/
def closing (outcome : Except RuleError (Option (RuleSet Rule))) (file : Option String) : Log :=
  match outcome with
  | .ok (some set) => [closingNote set file]
  | .ok none | .error _ => []

/-- Only the end of the log tells where tokens came from. -/
theorem readTokens_closing (tokens : List Token) :
    ∃ outcome notes, ∀ file, readTokens tokens file = (outcome, notes ++ closing outcome file) := by
  cases ran : Draft.run .blank (entries tokens) with
  | mk result log =>
      cases result with
      | error cause =>
          refine ⟨.error cause, log, ?_⟩
          intro file
          rw [readTokens, ran, closing, List.append_nil]
      | ok draft =>
          refine ⟨.ok draft.finish, log, ?_⟩
          intro file
          rw [readTokens, ran]
          cases finished : draft.finish with
          | none => simp [finished, closing]
          | some set => simp [finished, closing]

/-- Only the end of the log tells where a document came from. -/
theorem readDocument_closing (contents : String) :
    ∃ outcome notes, ∀ file,
      readDocument contents file = (outcome, notes ++ closing outcome file) := by
  cases tokenized : Token.ofText contents with
  | error cause =>
      refine ⟨.error cause, [], ?_⟩
      intro file
      rw [readDocument, tokenized]
      rfl
  | ok tokens =>
      obtain ⟨outcome, notes, read⟩ := readTokens_closing tokens
      refine ⟨outcome, notes, ?_⟩
      intro file
      rw [readDocument, tokenized]
      exact read file

theorem decodeFile_encode (name contents : String) :
    decodeFile name (Text.encodeUtf8 contents.toList) =
      .ok (String.ofList (Text.unifyBreaks contents.toList)) := by
  rw [decodeFile, Text.decodeStrict_encode]

/-- **Files.** From a file that holds the UTF-8 bytes of a text the same rule set is read as from the
text, or none from both, or both are refused for the same error; only the end of the log tells where
the text came from. -/
theorem readNamed_encoded {files : Files} {name contents : String}
    (found : files.find? name = some (Text.encodeUtf8 contents.toList)) :
    ∃ outcome notes,
      readNamed files name = (outcome, notes ++ closing outcome (some name)) ∧
      readDocument contents none = (outcome, notes ++ closing outcome none) := by
  obtain ⟨outcome, notes, read⟩ := readDocument_closing contents
  refine ⟨outcome, notes, ?_, read none⟩
  rw [readNamed, found]
  simp only [decodeFile_encode]
  rw [readDocument, Token.ofText_unifyBreaks, ← readDocument]
  exact read (some name)

/-- A text with all three line breaks, of which the fourth line is none of a document. -/
theorem readNamed_encoded_refused :
    let contents := "version=\"9\"\r\n\rname=\"ü\"\nbad\r\n"
    let files : Files := [("rules.dat", Text.encodeUtf8 contents.toList)]
    files.find? "./rules.dat" = some (Text.encodeUtf8 contents.toList) ∧
      ∃ outcome notes,
        readNamed files "./rules.dat" = (outcome, notes ++ closing outcome (some "./rules.dat")) ∧
        readDocument contents none = (outcome, notes ++ closing outcome none) ∧
        outcome = .error (.unrecognizedLine 4 "bad") := by
  intro contents files
  have found : files.find? "./rules.dat" = some (Text.encodeUtf8 contents.toList) := by
    decide +kernel
  obtain ⟨outcome, notes, named, direct⟩ := readNamed_encoded found
  have refused : (readDocument contents none).1 = .error (.unrecognizedLine 4 "bad") := by
    decide +kernel
  rw [direct] at refused
  exact ⟨found, outcome, notes, named, direct, refused⟩

end Document

end MailFilters
