import MailFilters.TypeFlags
import Mathlib.Data.Int.Bitwise

/-!
# Covering a mask with flags

* **`IsUnion`** — a mask whose bits are those of some flags of a table.
* **`cover_isUnion`** — a mask that is covered is such a union.
* **`take_exhausts`** — no flag of the table is left in what the cover leaves over.
* **`cover_typeFlags`** — a mask has names exactly if it is a union of type flags.

The bits of whole numbers are followed one by one (`Int.testBit`), negative numbers included.
-/

namespace MailFilters

/-! ## Bits -/

theorem natBitClear_eq_ldiff (a b : Nat) : natBitClear a b = Nat.ldiff a b := by
  apply Nat.eq_of_testBit_eq
  intro i
  rw [natBitClear, Nat.testBit_xor, Nat.testBit_and, Nat.testBit_ldiff]
  cases a.testBit i <;> cases b.testBit i <;> rfl

theorem bitAnd_eq_land (a b : Int) : bitAnd a b = Int.land a b := by
  cases a <;> cases b <;> simp [bitAnd, Int.land, natBitClear_eq_ldiff]

theorem bitNot_eq_lnot (a : Int) : bitNot a = Int.lnot a := by
  cases a <;> rfl

@[simp] theorem testBit_bitAnd (a b : Int) (i : Nat) :
    (bitAnd a b).testBit i = (a.testBit i && b.testBit i) := by
  rw [bitAnd_eq_land, Int.testBit_land]

@[simp] theorem testBit_bitClear (a b : Int) (i : Nat) :
    (bitClear a b).testBit i = (a.testBit i && !b.testBit i) := by
  rw [bitClear, testBit_bitAnd, bitNot_eq_lnot, Int.testBit_lnot]

theorem testBit_zero (i : Nat) : (0 : Int).testBit i = false := Nat.zero_testBit i

theorem testBit_beyond {a i : Nat} (far : a ≤ i) : a.testBit i = false :=
  Nat.testBit_lt_two_pow (Nat.lt_of_le_of_lt far Nat.lt_two_pow_self)

/-- Beyond its own length a number that is not negative has no bits, and a negative one has all. -/
theorem testBit_far (a : Int) : ∃ n, ∀ i, n ≤ i → a.testBit i = decide (a < 0) := by
  cases a with
  | ofNat a =>
      refine ⟨a, ?_⟩
      intro i far
      rw [show (Int.ofNat a).testBit i = a.testBit i from rfl, testBit_beyond far]
      simp
  | negSucc a =>
      refine ⟨a, ?_⟩
      intro i far
      rw [show (Int.negSucc a).testBit i = !a.testBit i from rfl, testBit_beyond far]
      simp [Int.negSucc_lt_zero]

/-- A whole number is determined by its bits. -/
theorem eq_of_testBit_eq {a b : Int} (same : ∀ i, a.testBit i = b.testBit i) : a = b := by
  obtain ⟨n, farA⟩ := testBit_far a
  obtain ⟨m, farB⟩ := testBit_far b
  have signs : decide (a < 0) = decide (b < 0) := by
    rw [← farA (n + m) (Nat.le_add_right n m), ← farB (n + m) (Nat.le_add_left m n)]
    exact same (n + m)
  -- numbers of different signs differ in some bit, so only equal signs are left
  cases a with
  | ofNat a =>
      cases b with
      | ofNat b => exact congrArg Int.ofNat (Nat.eq_of_testBit_eq same)
      | negSucc b =>
          simp only [Int.negSucc_lt_zero, decide_true, decide_eq_true_eq,
            Int.ofNat_eq_natCast] at signs
          omega
  | negSucc a =>
      cases b with
      | ofNat b =>
          simp only [Int.negSucc_lt_zero, decide_true, Bool.true_eq, decide_eq_true_eq,
            Int.ofNat_eq_natCast] at signs
          omega
      | negSucc b =>
          refine congrArg Int.negSucc (Nat.eq_of_testBit_eq ?_)
          intro i
          exact Bool.not_inj (same i)

theorem bitAnd_eq_right_iff {a b : Int} :
    bitAnd a b = b ↔ ∀ i, b.testBit i = true → a.testBit i = true := by
  constructor
  · intro inside i set
    rw [← inside, testBit_bitAnd, Bool.and_eq_true] at set
    exact set.1
  · intro inside
    apply eq_of_testBit_eq
    intro i
    rw [testBit_bitAnd]
    cases set : b.testBit i with
    | false => rw [Bool.and_false]
    | true => rw [inside i set, Bool.and_true]

namespace FlagTable

/-! ## Unions of flags -/

/-- All bits of some flags. -/
def union (flags : List Int) : Int := flags.foldr Int.lor 0

/-- A mask whose bits are those of some flags of a table. -/
def IsUnion (table : FlagTable) (mask : Int) : Prop :=
  ∃ flags, (∀ flag ∈ flags, ∃ name, (name, flag) ∈ table) ∧ mask = union flags

theorem testBit_union_cons (flag : Int) (rest : List Int) (i : Nat) :
    (union (flag :: rest)).testBit i = (flag.testBit i || (union rest).testBit i) :=
  Int.testBit_lor flag (union rest) i

/-! ## Taking flags out of a mask -/

/-- What is taken from a mask and what is left make up the mask. -/
theorem take_union {remaining left : Int} {table : FlagTable} {names : List String}
    (taken : take remaining table = (names, left)) :
    ∃ flags, (∀ flag ∈ flags, ∃ name, (name, flag) ∈ table) ∧
      ∀ i, remaining.testBit i = ((union flags).testBit i || left.testBit i) := by
  induction table generalizing remaining names with
  | nil =>
      simp only [take, Prod.mk.injEq] at taken
      obtain ⟨_, rfl⟩ := taken
      exact ⟨[], by simp, fun i => by rw [union, List.foldr_nil, testBit_zero, Bool.false_or]⟩
  | cons entry rest ih =>
      obtain ⟨name, flag⟩ := entry
      rw [take] at taken
      split at taken
      · next inside =>
          simp only [Prod.mk.injEq] at taken
          obtain ⟨_, rfl⟩ := taken
          obtain ⟨flags, listed, bits⟩ := ih (Prod.eta (take (bitClear remaining flag) rest)).symm
          refine ⟨flag :: flags, ?_, ?_⟩
          · intro other member
            rcases List.mem_cons.mp member with rfl | member
            · exact ⟨name, List.mem_cons_self⟩
            · obtain ⟨name', member⟩ := listed other member
              exact ⟨name', List.mem_cons_of_mem _ member⟩
          · intro i
            have rest := bits i
            have contained := bitAnd_eq_right_iff.mp inside i
            rw [testBit_bitClear] at rest
            rw [testBit_union_cons, Bool.or_assoc, ← rest]
            cases set : flag.testBit i with
            | false => simp
            | true => simp [contained set]
      · obtain ⟨flags, listed, bits⟩ := ih taken
        refine ⟨flags, ?_, bits⟩
        intro other member
        obtain ⟨name', member⟩ := listed other member
        exact ⟨name', List.mem_cons_of_mem _ member⟩

/-- No bit comes back. -/
theorem take_shrinks {remaining left : Int} {table : FlagTable} {names : List String}
    (taken : take remaining table = (names, left)) {i : Nat} (set : left.testBit i = true) :
    remaining.testBit i = true := by
  obtain ⟨flags, _, bits⟩ := take_union taken
  rw [bits i, set, Bool.or_true]

/-- No flag of the table is left: when its turn comes it is taken, or some bit of it is gone. -/
theorem take_exhausts {remaining left : Int} {table : FlagTable} {names : List String}
    (taken : take remaining table = (names, left)) {name : String} {flag : Int}
    (member : (name, flag) ∈ table) (nonzero : flag ≠ 0) : bitAnd left flag ≠ flag := by
  induction table generalizing remaining names with
  | nil => simp at member
  | cons entry rest ih =>
      obtain ⟨first, head⟩ := entry
      rw [take] at taken
      split at taken
      · simp only [Prod.mk.injEq] at taken
        obtain ⟨_, rfl⟩ := taken
        have later := Prod.eta (take (bitClear remaining head) rest)
        rcases List.mem_cons.mp member with same | member
        · simp only [Prod.mk.injEq] at same
          obtain ⟨rfl, rfl⟩ := same
          intro inside
          apply nonzero
          apply eq_of_testBit_eq
          intro i
          rw [testBit_zero, Bool.eq_false_iff]
          intro set
          -- a bit of the flag was cleared when the flag was taken, and none comes back
          have back := take_shrinks later.symm (bitAnd_eq_right_iff.mp inside i set)
          rw [testBit_bitClear, set] at back
          simp at back
        · exact ih later.symm member
      · next missing =>
          rcases List.mem_cons.mp member with same | member
          · simp only [Prod.mk.injEq] at same
            obtain ⟨rfl, rfl⟩ := same
            intro inside
            -- what is left of the mask is part of the mask that the flag was held against
            apply missing
            rw [bitAnd_eq_right_iff] at inside ⊢
            exact fun i set => take_shrinks taken (inside i set)
          · exact ih taken member

theorem mem_byWidth {table : FlagTable} {entry : String × Int} :
    entry ∈ table.byWidth ↔ entry ∈ table ∧ entry.2 ≠ 0 := by
  rw [byWidth, List.mem_mergeSort, List.mem_filter]
  simp

/-- A mask that is covered is a union of flags of the table. -/
theorem cover_isUnion {table : FlagTable} {mask : Int} {names : List String}
    (covered : cover table mask = .ok names) : IsUnion table mask := by
  unfold cover at covered
  split at covered
  · next zero => exact ⟨[], by simp, zero⟩
  · split at covered
    next _ left taken =>
      split at covered
      · next none =>
          obtain ⟨flags, listed, bits⟩ := take_union taken
          refine ⟨flags, ?_, ?_⟩
          · intro flag member
            obtain ⟨name, inside⟩ := listed flag member
            exact ⟨name, (mem_byWidth.mp inside).1⟩
          · apply eq_of_testBit_eq
            intro i
            rw [bits i, none, testBit_zero, Bool.or_false]
      · simp at covered

/-! ## Type flags -/

theorem typeFlags_small : ∀ entry ∈ typeFlags, 0 ≤ entry.2 ∧ entry.2 < 2 ^ 9 := by decide

theorem typeFlags_single : ∀ i < 9, ∃ entry ∈ typeFlags, entry.2 = Int.ofNat (2 ^ i) := by decide

theorem testBit_of_small {a : Int} (small : 0 ≤ a ∧ a < 2 ^ 9) {i : Nat} (far : 9 ≤ i) :
    a.testBit i = false := by
  obtain ⟨n, rfl⟩ := Int.eq_ofNat_of_zero_le small.1
  have bound : n < 2 ^ 9 := by omega
  exact Nat.testBit_lt_two_pow (Nat.lt_of_lt_of_le bound (Nat.pow_le_pow_right (by decide) far))

theorem typeFlags_bits :
    ∀ n < 2 ^ 9, Int.ofNat n =
      union (((List.range 9).filter n.testBit).map (Int.ofNat <| 2 ^ ·)) := by
  decide +kernel

/-- Every mask of nine bits is a union of type flags. -/
theorem isUnion_of_small {mask : Nat} (small : mask < 2 ^ 9) : IsUnion typeFlags mask := by
  refine ⟨_, ?_, typeFlags_bits mask small⟩
  intro flag member
  obtain ⟨i, listed, rfl⟩ := List.mem_map.mp member
  obtain ⟨⟨name, flag⟩, inside, rfl⟩ :=
    typeFlags_single i (List.mem_range.mp (List.mem_filter.mp listed).1)
  exact ⟨name, inside⟩

theorem IsUnion.testBit_far {mask : Int} (union : IsUnion typeFlags mask) {i : Nat}
    (far : 9 ≤ i) : mask.testBit i = false := by
  obtain ⟨flags, listed, rfl⟩ := union
  induction flags with
  | nil => exact testBit_zero i
  | cons flag rest ih =>
      obtain ⟨name, member⟩ := listed flag List.mem_cons_self
      rw [testBit_union_cons, testBit_of_small (typeFlags_small _ member) far,
        ih fun other inside => listed other (List.mem_cons_of_mem _ inside)]
      rfl

/-- Every bit of a type flag is a flag by itself, so nothing of a union is left over. -/
theorem take_typeFlags {mask left : Int} {names : List String} (union : IsUnion typeFlags mask)
    (taken : take mask typeFlags.byWidth = (names, left)) : left = 0 := by
  apply eq_of_testBit_eq
  intro i
  rw [testBit_zero, Bool.eq_false_iff]
  intro set
  by_cases far : 9 ≤ i
  · have back := take_shrinks taken set
    rw [union.testBit_far far] at back
    simp at back
  -- the flag with this bit alone would have been left, and none is
  · obtain ⟨⟨name, flag⟩, member, rfl⟩ := typeFlags_single i (by omega)
    have nonzero : Int.ofNat (2 ^ i) ≠ 0 := by
      have positive := Nat.two_pow_pos i
      simp only [Int.ofNat_eq_natCast]
      omega
    refine take_exhausts taken (mem_byWidth.mpr ⟨member, nonzero⟩) nonzero ?_
    rw [bitAnd_eq_right_iff]
    intro j setJ
    rw [show (Int.ofNat (2 ^ i)).testBit j = (2 ^ i).testBit j from rfl, Nat.testBit_two_pow,
      decide_eq_true_eq] at setJ
    exact setJ ▸ set

/-- A mask has names exactly if it is a union of type flags. -/
theorem cover_typeFlags {mask : Int} :
    (∃ names, cover typeFlags mask = .ok names) ↔ IsUnion typeFlags mask := by
  constructor
  · rintro ⟨names, covered⟩
    exact cover_isUnion covered
  · intro union
    unfold cover
    by_cases zero : mask = 0
    · rw [if_pos zero]
      exact ⟨_, rfl⟩
    · rw [if_neg zero]
      cases taken : take mask typeFlags.byWidth with
      | mk names left =>
          have none := take_typeFlags union taken
          exact ⟨names, if_pos none⟩

end FlagTable

end MailFilters
