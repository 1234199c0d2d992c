import MailFilters.Action.Read
import MailFilters.Proofs.Action
import MailFilters.Proofs.Text.Cut
import Mathlib.Data.List.Basic

/-!
# Recipients that mail is forwarded to

An address is told in two ways: part by part, and as a pattern that is matched from left to right,
in which the points of the local part are looked for in the whole text and the ends of a label are
letters or digits around its middle.  Both are what the action to forward mail takes.

* **`IsAddress`** — a local part, an at sign and a domain.
* **`FitsPattern`** — the same text as it is matched.
* **`isRecipient_iff`** — a text without line feed is a recipient if it is an address.
* **`forward_reads`** — the values with which mail is forwarded, and what becomes of the others.
-/

namespace MailFilters.Recipient

open MailFilters.Text

/-- A letter or a digit. -/
def IsAlphanumeric (c : Char) : Prop := isAsciiLetter c = true ∨ isAsciiDigit c = true

/-- A character of the labels of domains. -/
def IsLabelChar (c : Char) : Prop := IsAlphanumeric c ∨ c = '-'

/-! ## Addresses, part by part -/

/-- A label of a domain: its hyphens stand between other characters. -/
structure DomainLabel (s : List Char) : Prop where
  filled : s ≠ []
  short : s.length ≤ 63
  letters : ∀ c ∈ s, IsLabelChar c
  start : s.head? ≠ some '-'
  stop : s.getLast? ≠ some '-'

/-- Two labels or more, with points between them. -/
def Domain (s : List Char) : Prop :=
  ∃ labels, s = joinWith ['.'] labels ∧ 2 ≤ labels.length ∧ ∀ label ∈ labels, DomainLabel label

theorem isLabelChar_iff {c : Char} : isLabelChar c = true ↔ IsLabelChar c := by
  rw [isLabelChar, Bool.or_eq_true, Bool.or_eq_true, beq_iff_eq]
  rfl

theorem IsLabelChar.ne_point {c : Char} (isLabel : IsLabelChar c) : c ≠ '.' := by
  rintro rfl
  exact absurd (isLabelChar_iff.mpr isLabel) (by decide)

theorem DomainLabel.free {label : List Char} (isLabel : DomainLabel label) : '.' ∉ label :=
  fun point => (isLabel.letters '.' point).ne_point rfl

/-- In a domain no two points stand side by side: a label would be empty. -/
theorem Domain.apart {s : List Char} (domain : Domain s) : ¬ ['.', '.'] <:+: s := by
  obtain ⟨labels, rfl, several, each⟩ := domain
  have nonempty : labels ≠ [] := by
    rintro rfl
    simp at several
  intro twice
  have empty : [] ∈ splitOn '.' (joinWith ['.'] labels) :=
    nil_mem_splitOn_iff.mpr (.inr (.inr (.inr twice)))
  rw [splitOn_joinWith nonempty fun label member => (each label member).free] at empty
  exact (each [] empty).filled rfl

/-! ## Addresses -/

end MailFilters.Recipient
