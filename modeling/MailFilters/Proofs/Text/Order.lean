import MailFilters.Proofs.Text.Numeral
import Mathlib.Tactic.Tauto

/-!
# Order of texts

A text comes before another one if it does at the first character in which they differ.

* **`append_lt_append_iff`** — texts whose first parts have one length are ordered by these and then
  by what stands behind them.
* **`digits_lt_iff`** — runs of ASCII digits of one length are ordered as their numbers are.
* **`paddedDecimal_lt_iff`**, **`paddedDecimal_inj`** — and so are numbers in digits of one width.
-/

namespace MailFilters.Text

theorem append_lt_append_iff {s s' t t' : List Char} (same : s.length = s'.length) :
    s ++ t < s' ++ t' ↔ s < s' ∨ s = s' ∧ t < t' := by
  induction s generalizing s' with
  | nil =>
      obtain rfl := List.length_eq_zero_iff.mp same.symm
      simp
  | cons c s ih =>
      cases s' with
      | nil => simp at same
      | cons d s' =>
          rw [List.cons_append, List.cons_append, List.cons_lt_cons_iff, List.cons_lt_cons_iff,
            ih (by simpa using same), List.cons.injEq]
          tauto

/-! ## Digits -/

theorem decimalValue_cons (c : Char) (digits : List Char) :
    decimalValue (c :: digits) =
      (digitValue? c).getD 0 * 10 ^ digits.length + decimalValue digits := by
  induction digits using List.reverseRecOn with
  | nil => simp [decimalValue]
  | append_singleton digits d ih =>
      rw [← List.cons_append, decimalValue_concat, decimalValue_concat, ih, List.length_append,
        List.length_singleton, Nat.pow_succ, ← Nat.mul_assoc]
      omega

/-- A greater first digit outweighs all digits behind it. -/
theorem leading_lt {n v w a b : Nat} (less : v < w) (small : a < 10 ^ n) :
    v * 10 ^ n + a < w * 10 ^ n + b := by
  have step : (v + 1) * 10 ^ n ≤ w * 10 ^ n := Nat.mul_le_mul_right _ less
  rw [Nat.succ_mul] at step
  omega

/-- Runs of ASCII digits of one length are ordered as their numbers are. -/
theorem digits_lt_iff {s t : List Char} (digits : ∀ c ∈ s, isAsciiDigit c = true)
    (digits' : ∀ c ∈ t, isAsciiDigit c = true) (same : s.length = t.length) :
    s < t ↔ decimalValue s < decimalValue t := by
  induction s generalizing t with
  | nil =>
      obtain rfl := List.length_eq_zero_iff.mp same.symm
      simp
  | cons c s ih =>
      cases t with
      | nil => simp at same
      | cons d t =>
          obtain ⟨first, rest⟩ := List.forall_mem_cons.mp digits
          obtain ⟨first', rest'⟩ := List.forall_mem_cons.mp digits'
          have length : s.length = t.length := by simpa using same
          have small := decimalValue_lt s
          have small' := decimalValue_lt t
          rw [← length] at small'
          have zero : 0x30 ≤ c.toNat := (isAsciiDigit_iff.mp first).1
          have zero' : 0x30 ≤ d.toNat := (isAsciiDigit_iff.mp first').1
          have byCode : c < d ↔ c.toNat < d.toNat := Iff.rfl
          rw [List.cons_lt_cons_iff, ih rest rest' length, decimalValue_cons, decimalValue_cons,
            digitValue_ascii first, digitValue_ascii first', Option.getD_some, Option.getD_some,
            ← length, byCode]
          -- the first digits decide unless they are the same
          rcases Nat.lt_trichotomy c.toNat d.toNat with less | equal | greater
          · have ordered := @leading_lt s.length _ _ _ (decimalValue t)
              (show c.toNat - 0x30 < d.toNat - 0x30 by omega) small
            simp [less, ordered]
          · obtain rfl := Char.toNat_inj.mp equal
            simp
          · have ordered := @leading_lt s.length _ _ _ (decimalValue s)
              (show d.toNat - 0x30 < c.toNat - 0x30 by omega) small'
            have different : c ≠ d := fun same => absurd greater (same ▸ Nat.lt_irrefl _)
            simp only [different, false_and, or_false]
            omega

/-! ## Numbers of one width -/

section

variable {width n m : Nat}

theorem paddedDecimal_lt_iff (small : n < 10 ^ width) (small' : m < 10 ^ width)
    (positive : 0 < width) :
    (paddedDecimal width n).toList < (paddedDecimal width m).toList ↔ n < m := by
  have length : (paddedDecimal width n).toList.length = (paddedDecimal width m).toList.length := by
    rw [paddedDecimal_length small positive, paddedDecimal_length small' positive]
  rw [digits_lt_iff (paddedDecimal_digits _ _) (paddedDecimal_digits _ _) length,
    decimalValue_paddedDecimal, decimalValue_paddedDecimal]

theorem paddedDecimal_inj :
    (paddedDecimal width n).toList = (paddedDecimal width m).toList ↔ n = m := by
  constructor
  · intro same
    have values := congrArg decimalValue same
    rwa [decimalValue_paddedDecimal, decimalValue_paddedDecimal] at values
  · rintro rfl
    rfl

end

end MailFilters.Text
