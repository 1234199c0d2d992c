import MailFilters.Proofs.Text.Lines
import MailFilters.Text.Digit
import Mathlib.Algebra.Group.Nat.Defs
import Mathlib.Data.List.Induction

/-!
# Numerals

* **`decimalValue_numeral`** — the numeral of a number writes that number.
* **`decimalValue_lt`** — a run of digits writes a number below the power of ten of its length.
* **`numeral_digits`**, **`numeral_nonempty`** — a numeral is a run of ASCII digits.
* **`numeral_length_le`** — how many digits a number below a power of ten has.
* **`readNumeral_eq_error_iff`** — the runs of digits that are not read.
* **`paddedDecimal_length`**, **`decimalValue_paddedDecimal`** — zeros in front of a numeral give
  it a width and leave its value.
-/

namespace MailFilters.Text

/-! ## Single digits -/

theorem digitChar_ascii : ∀ d < 10, isAsciiDigit (digitChar d) = true := by decide

theorem digitValue_digitChar : ∀ d < 10, digitValue? (digitChar d) = some d := by decide +kernel

theorem digitValue_lt {c : Char} {d : Nat} (digit : digitValue? c = some d) : d < 10 := by
  obtain ⟨start, found, rfl⟩ := Option.map_eq_some_iff.mp digit
  have bounds := List.find?_some found
  simp only [Bool.and_eq_true, decide_eq_true_eq] at bounds
  omega

theorem isAsciiDigit_iff {c : Char} :
    isAsciiDigit c = true ↔ 0x30 ≤ c.toNat ∧ c.toNat ≤ 0x39 := by
  simp only [isAsciiDigit, Bool.and_eq_true, decide_eq_true_eq]
  exact Iff.rfl

theorem digitValue_ascii {c : Char} (ascii : isAsciiDigit c = true) :
    digitValue? c = some (c.toNat - 0x30) := by
  obtain ⟨low, high⟩ := isAsciiDigit_iff.mp ascii
  exact @of_codePoints (fun c => digitValue? c = some (c.toNat - 0x30)) 0x30 0x3A (by decide) c
    low (by omega)

theorem isDigit_of_ascii {c : Char} (ascii : isAsciiDigit c = true) : isDigit c = true := by
  rw [isDigit, digitValue_ascii ascii]
  rfl

/-! ## Numerals -/

theorem numeral_short {n : Nat} (short : n < 10) : numeral n = [digitChar n] := by
  rw [numeral, if_pos short]

theorem numeral_long {n : Nat} (long : ¬ n < 10) :
    numeral n = numeral (n / 10) ++ [digitChar (n % 10)] := by
  rw [numeral, if_neg long]

theorem decimalValue_concat (digits : List Char) (c : Char) :
    decimalValue (digits ++ [c]) = 10 * decimalValue digits + (digitValue? c).getD 0 := by
  rw [decimalValue, List.foldl_append]
  rfl

theorem decimalValue_lt (digits : List Char) : decimalValue digits < 10 ^ digits.length := by
  induction digits using List.reverseRecOn with
  | nil => decide
  | append_singleton digits c ih =>
      have last : (digitValue? c).getD 0 < 10 := by
        cases digit : digitValue? c with
        | none => decide
        | some d => exact digitValue_lt digit
      rw [decimalValue_concat, List.length_append, List.length_singleton, Nat.pow_succ]
      omega

theorem numeral_digits (n : Nat) : ∀ c ∈ numeral n, isAsciiDigit c = true := by
  induction n using Nat.strongRecOn with
  | _ n ih =>
      by_cases short : n < 10
      · rw [numeral_short short]
        intro c member
        rw [List.mem_singleton.mp member]
        exact digitChar_ascii n short
      · rw [numeral_long short]
        intro c member
        rcases List.mem_append.mp member with front | last
        · exact ih (n / 10) (by omega) c front
        · rw [List.mem_singleton.mp last]
          exact digitChar_ascii _ (Nat.mod_lt n (by omega))

theorem numeral_isLine (n : Nat) : IsLine (numeral n) :=
  .of_forall (numeral_digits n) (by decide) (by decide)

theorem numeral_nonempty (n : Nat) : numeral n ≠ [] := by
  by_cases short : n < 10
  · simp [numeral_short short]
  · simp [numeral_long short]

theorem decimalValue_numeral (n : Nat) : decimalValue (numeral n) = n := by
  induction n using Nat.strongRecOn with
  | _ n ih =>
      by_cases short : n < 10
      · rw [numeral_short short]
        have value := decimalValue_concat [] (digitChar n)
        rw [digitValue_digitChar n short] at value
        simpa [decimalValue] using value
      · rw [numeral_long short, decimalValue_concat, ih (n / 10) (by omega),
          digitValue_digitChar _ (Nat.mod_lt n (by omega))]
        show 10 * (n / 10) + n % 10 = n
        omega

theorem numeral_length_le {n width : Nat} (small : n < 10 ^ width) (positive : 0 < width) :
    (numeral n).length ≤ width := by
  induction width generalizing n with
  | zero => omega
  | succ width ih =>
      by_cases short : n < 10
      · rw [numeral_short short]
        exact positive
      · have wide : 0 < width := by
          rcases Nat.eq_zero_or_pos width with rfl | wide
          · simp only [Nat.zero_add, Nat.pow_one] at small
            omega
          · exact wide
        rw [Nat.pow_succ] at small
        have front := @ih (n / 10) (by omega) wide
        rw [numeral_long short, List.length_append, List.length_singleton]
        omega

/-- Only for their number are digits not read. -/
theorem readNumeral_eq_error_iff {digits : List Char} {count : Nat} :
    readNumeral digits = .error count ↔ maxDigits < digits.length ∧ count = digits.length := by
  rw [readNumeral]
  constructor
  · intro failed
    split at failed
    · simp at failed
    · next beyond => exact ⟨Nat.lt_of_not_le beyond, (Except.error.inj failed).symm⟩
  · intro long
    obtain ⟨beyond, rfl⟩ := long
    rw [if_neg (Nat.not_le_of_lt beyond)]

/-! ## Zeros in front -/

theorem decimalValue_zeros (zeros : Nat) (digits : List Char) :
    decimalValue (List.replicate zeros '0' ++ digits) = decimalValue digits := by
  have zero : digitValue? '0' = some 0 := by decide
  induction zeros with
  | zero => rfl
  | succ zeros ih =>
      rw [List.replicate_succ, List.cons_append, decimalValue, List.foldl_cons, zero]
      exact ih

theorem paddedDecimal_digits (width n : Nat) :
    ∀ c ∈ (paddedDecimal width n).toList, isAsciiDigit c = true := by
  intro c member
  rw [paddedDecimal, String.toList_ofList] at member
  rcases List.mem_append.mp member with zero | digit
  · rw [List.eq_of_mem_replicate zero]
    decide
  · exact numeral_digits n c digit

theorem paddedDecimal_length {width n : Nat} (small : n < 10 ^ width) (positive : 0 < width) :
    (paddedDecimal width n).toList.length = width := by
  have short := numeral_length_le small positive
  rw [paddedDecimal, String.toList_ofList, List.length_append, List.length_replicate]
  omega

theorem decimalValue_paddedDecimal (width n : Nat) :
    decimalValue (paddedDecimal width n).toList = n := by
  rw [paddedDecimal, String.toList_ofList, decimalValue_zeros, decimalValue_numeral]

end MailFilters.Text
