import MailFilters.Text.LetterCase

/-!
# Lower case in ASCII

* **`lowerAt_ascii`** — a character whose lower case is ASCII is a capital, the Kelvin sign or its
  own lower case.
* **`lower_fixed`** — a text of ASCII without capitals is its own lower case.
-/

namespace MailFilters.Text

/-- A run that moves every code point it covers to one beyond ASCII. -/
def Shift.leavesAscii (run : Shift) : Bool :=
  0x80 ≤ run.first + run.distance &&
    (run.last + run.distance < 0xD800 ||
      (0xDFFF < run.first + run.distance && run.last + run.distance < 0x110000))

/-- The two runs that move a code point to an ASCII one: the capitals and the Kelvin sign. -/
def Shift.isAsciiRun (run : Shift) : Bool :=
  (run.first == 0x41 && run.last == 0x5A && run.distance == 32) ||
    (run.first == 0x212A && run.last == 0x212A && run.distance == -8383)

theorem lowerShifts_ascii :
    ∀ run ∈ lowerShifts, (run.leavesAscii || run.isAsciiRun) = true := by decide +kernel

theorem lowerExpansions_ascii :
    ∀ entry ∈ lowerExpansions, ∃ n ∈ entry.2, 0x80 ≤ n ∧ n < 0xD800 := by decide

theorem shiftBy?_eq_some {table : List Shift} {n : Nat} {distance : Int}
    (shifted : shiftBy? table n = some distance) :
    ∃ run ∈ table, run.first ≤ n ∧ n ≤ run.last ∧ run.distance = distance := by
  induction table with
  | nil => simp [shiftBy?] at shifted
  | cons run rest ih =>
      rw [shiftBy?] at shifted
      split at shifted
      · simp at shifted
      · split at shifted
        · next covered =>
            simp only [Shift.covers, Bool.and_eq_true, decide_eq_true_eq] at covered
            exact ⟨run, List.mem_cons_self, covered.1.1, covered.1.2, by simpa using shifted⟩
        · obtain ⟨found, member, facts⟩ := ih shifted
          exact ⟨found, List.mem_cons_of_mem _ member, facts⟩

theorem toNat_ofNat_of_lt {n : Nat} (valid : n < 0xD800 ∨ (0xDFFF < n ∧ n < 0x110000)) :
    (Char.ofNat n).toNat = n := by
  rw [Char.ofNat, dif_pos (show n.isValidChar from valid)]
  rfl

/-- A character whose lower case is in ASCII: a capital, the Kelvin sign, or a character that the
tables leave alone. -/
theorem lowerAt_ascii {before after : List Char} {c : Char}
    (ascii : ∀ l ∈ lowerAt before c after, l.toNat < 0x80) :
    lowerAt before c after = [c] ∨
      (0x41 ≤ c.toNat ∧ c.toNat ≤ 0x5A ∧ lowerAt before c after = [Char.ofNat (c.toNat + 32)]) ∨
      (c = '\u212a' ∧ lowerAt before c after = ['k']) := by
  unfold lowerAt at ascii ⊢
  by_cases sigma : c = 'Σ'
  · rw [if_pos sigma] at ascii
    have small := ascii _ List.mem_cons_self
    split at small <;> simp at small
  · rw [if_neg sigma] at ascii ⊢
    unfold mapChar at ascii ⊢
    split
    · next distance shifted =>
        rw [shifted] at ascii
        have small := ascii _ List.mem_cons_self
        obtain ⟨run, member, first, last, rfl⟩ := shiftBy?_eq_some shifted
        have kind := lowerShifts_ascii run member
        simp only [Shift.leavesAscii, Shift.isAsciiRun, Bool.or_eq_true, Bool.and_eq_true,
          decide_eq_true_eq, beq_iff_eq] at kind
        rcases kind with ⟨low, valid⟩ | ⟨⟨firstCode, lastCode⟩, far⟩ | ⟨⟨firstCode, lastCode⟩, far⟩
        · rw [toNat_ofNat_of_lt (by omega)] at small
          omega
        · refine .inr (.inl ⟨by omega, by omega, ?_⟩)
          rw [far]
          rfl
        · have code : c.toNat = 0x212A := by omega
          have same : c = '\u212a' := Char.toNat_inj.mp code
          refine .inr (.inr ⟨same, ?_⟩)
          rw [far, same]
          rfl
    · next sequence unshifted expanded =>
        rw [unshifted, expanded] at ascii
        unfold expansion? at expanded
        obtain ⟨entry, found, rfl⟩ := Option.map_eq_some_iff.mp expanded
        obtain ⟨n, member, low, high⟩ :=
          lowerExpansions_ascii entry (List.mem_of_find?_eq_some found)
        have small := ascii (Char.ofNat n) (List.mem_map_of_mem member)
        rw [toNat_ofNat_of_lt (.inl high)] at small
        omega
    · exact .inl rfl

theorem ascii_fixed :
    ∀ n < 0x80, ¬ (0x41 ≤ n ∧ n ≤ 0x5A) →
      shiftBy? lowerShifts n = none ∧ expansion? lowerExpansions n = none := by decide +kernel

theorem lowerAt_fixed {before after : List Char} {c : Char} (ascii : c.toNat < 0x80)
    (noCapital : ¬ (0x41 ≤ c.toNat ∧ c.toNat ≤ 0x5A)) : lowerAt before c after = [c] := by
  have noSigma : c ≠ 'Σ' := by
    rintro rfl
    exact absurd ascii (by decide)
  obtain ⟨unshifted, unexpanded⟩ := ascii_fixed c.toNat ascii noCapital
  rw [lowerAt, if_neg noSigma, mapChar, unshifted, unexpanded]

/-- A text of ASCII without capitals is its own lower case. -/
theorem lower_fixed {s : List Char}
    (fixed : ∀ c ∈ s, c.toNat < 0x80 ∧ ¬ (0x41 ≤ c.toNat ∧ c.toNat ≤ 0x5A)) : lower s = s := by
  have from_any : ∀ before, lowerFrom before s = s := by
    induction s with
    | nil => intro before; rfl
    | cons c rest ih =>
        intro before
        obtain ⟨ascii, noCapital⟩ := fixed c List.mem_cons_self
        rw [lowerFrom, lowerAt_fixed ascii noCapital,
          ih (fun d member => fixed d (List.mem_cons_of_mem c member))]
        rfl
  exact from_any []

end MailFilters.Text
