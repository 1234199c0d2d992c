import MailFilters.Proofs.Flags
import Mathlib.Data.List.Pairwise
import Mathlib.Data.List.Permutation

/-!
# Shortest covers

A cover takes the flags with most bits first.  What it takes shares no bits, and if any two flags of
the table are apart or one of them lies inside the other, no other cover has fewer flags.

* **`Inside`**, **`Apart`** — all bits of a mask are bits of another one; two masks share none.
* **`taken`** — the flags that a cover takes out of a mask.
* **`taken_widest`** — in a nested table every flag inside the mask lies inside one that is taken.
* **`IsCover`** — flags of a table that share no bits, make up a mask and come widest first.
* **`cover_shortest`** — a mask that is covered has such flags; in a nested table every union of
  flags is covered, and by as few flags as can be.
-/

namespace MailFilters

/-! ## Numbers of bits -/

theorem natBitCount_half (n : Nat) : natBitCount n = n % 2 + natBitCount (n / 2) := by
  rw [natBitCount]
  split
  · next zero =>
      subst zero
      rw [Nat.zero_mod, Nat.zero_div, natBitCount, if_pos rfl]
  · rfl

/-- A number whose bits are bits of another one has no more of them, and fewer unless the two are
equal. -/
theorem natBitCount_inside {a b : Nat}
    (inside : ∀ i, a.testBit i = true → b.testBit i = true) :
    natBitCount a ≤ natBitCount b ∧ (natBitCount b ≤ natBitCount a → a = b) := by
  induction b using Nat.strong_induction_on generalizing a with
  | _ b ih =>
      by_cases zero : b = 0
      · subst zero
        have empty : a = 0 := by
          apply Nat.eq_of_testBit_eq
          intro i
          rw [Nat.zero_testBit, Bool.eq_false_iff]
          intro set
          have back := inside i set
          rw [Nat.zero_testBit] at back
          simp at back
        rw [empty]
        exact ⟨Nat.le_refl _, fun _ => rfl⟩
      · have halves : ∀ i, (a / 2).testBit i = true → (b / 2).testBit i = true := by
          intro i set
          rw [← Nat.testBit_succ] at set ⊢
          exact inside (i + 1) set
        have lowest : a % 2 = 1 → b % 2 = 1 := by
          intro odd
          have set := inside 0
          rw [Nat.testBit_zero, Nat.testBit_zero, decide_eq_true_eq, decide_eq_true_eq] at set
          exact set odd
        obtain ⟨fewer, equal⟩ := ih (b / 2) (by omega) halves
        rw [natBitCount_half a, natBitCount_half b]
        refine ⟨by omega, ?_⟩
        intro asMany
        have same := equal (by omega)
        omega

namespace FlagTable

/-! ## Masks -/

/-- All bits of a mask are bits of another one. -/
def Inside (inner outer : Int) : Prop := bitAnd outer inner = inner

/-- Two masks share no bit. -/
def Apart (first second : Int) : Prop := bitAnd first second = 0

instance (inner outer : Int) : Decidable (Inside inner outer) :=
  inferInstanceAs (Decidable (_ = _))

instance (first second : Int) : Decidable (Apart first second) :=
  inferInstanceAs (Decidable (_ = _))

theorem inside_iff {inner outer : Int} :
    Inside inner outer ↔ ∀ i, inner.testBit i = true → outer.testBit i = true :=
  bitAnd_eq_right_iff

theorem apart_iff {first second : Int} :
    Apart first second ↔ ∀ i, first.testBit i = true → second.testBit i = false := by
  constructor
  · intro apart i set
    have bit := testBit_bitAnd first second i
    rw [apart, testBit_zero, set, Bool.true_and] at bit
    exact bit.symm
  · intro apart
    apply eq_of_testBit_eq
    intro i
    rw [testBit_bitAnd, testBit_zero]
    cases set : first.testBit i with
    | false => rfl
    | true => rw [apart i set]; rfl

theorem Inside.refl (mask : Int) : Inside mask mask := inside_iff.mpr fun _ set => set

theorem Apart.symm {first second : Int} (apart : Apart first second) : Apart second first := by
  rw [apart_iff] at apart ⊢
  intro i set
  rw [Bool.eq_false_iff]
  intro shared
  rw [apart i shared] at set
  simp at set

theorem ne_zero_of_bit {mask : Int} {i : Nat} (set : mask.testBit i = true) : mask ≠ 0 := by
  rintro rfl
  rw [testBit_zero] at set
  simp at set

theorem exists_bit {mask : Int} (nonzero : mask ≠ 0) : ∃ i, mask.testBit i = true := by
  by_contra none
  apply nonzero
  apply eq_of_testBit_eq
  intro i
  rw [testBit_zero, Bool.eq_false_iff]
  exact fun set => none ⟨i, set⟩

/-- Nothing lies inside two masks that are apart. -/
theorem Apart.eq_zero {first second flag : Int} (apart : Apart first second)
    (inFirst : Inside flag first) (inSecond : Inside flag second) : flag = 0 := by
  by_contra nonzero
  obtain ⟨i, set⟩ := exists_bit nonzero
  have none := apart_iff.mp apart i (inside_iff.mp inFirst i set)
  rw [inside_iff.mp inSecond i set] at none
  simp at none

/-- A mask inside another one that has no more bits is the other one, if neither is negative. -/
theorem Inside.eq_of_bitCount_le {inner outer : Int} (inside : Inside inner outer)
    (positive : 0 ≤ inner) (positive' : 0 ≤ outer) (asMany : bitCount outer ≤ bitCount inner) :
    inner = outer := by
  obtain ⟨a, rfl⟩ := Int.eq_ofNat_of_zero_le positive
  obtain ⟨b, rfl⟩ := Int.eq_ofNat_of_zero_le positive'
  have same := (natBitCount_inside (inside_iff.mp inside)).2 asMany
  exact congrArg Int.ofNat same

/-! ## The flags that are taken -/

/-- The flags that lie in what is left of a mask when their turn comes. -/
def taken (remaining : Int) : FlagTable → FlagTable
  | [] => []
  | entry :: rest =>
    if Inside entry.2 remaining then entry :: taken (bitClear remaining entry.2) rest
    else taken remaining rest

/-- The numbers of some flags. -/
def masks (entries : FlagTable) : List Int := entries.map (·.2)

theorem take_cons (remaining : Int) (entry : String × Int) (rest : FlagTable) :
    take remaining (entry :: rest) =
      if Inside entry.2 remaining then
        (entry.1 :: (take (bitClear remaining entry.2) rest).1,
          (take (bitClear remaining entry.2) rest).2)
      else take remaining rest := by
  rfl

theorem take_names (remaining : Int) (table : FlagTable) :
    (take remaining table).1 = (taken remaining table).map (·.1) := by
  induction table generalizing remaining with
  | nil => rfl
  | cons entry rest ih =>
      rw [take_cons, taken]
      split
      · rw [ih, List.map_cons]
      · exact ih remaining

theorem taken_sublist (remaining : Int) (table : FlagTable) :
    (taken remaining table).Sublist table := by
  induction table generalizing remaining with
  | nil => exact .slnil
  | cons entry rest ih =>
      rw [taken]
      split
      · exact (ih _).cons_cons entry
      · exact (ih _).cons entry

theorem taken_inside {remaining : Int} {table : FlagTable} :
    ∀ entry ∈ taken remaining table, Inside entry.2 remaining := by
  induction table generalizing remaining with
  | nil => simp [taken]
  | cons first rest ih =>
      rw [taken]
      split
      · next inside =>
          refine List.forall_mem_cons.mpr ⟨inside, ?_⟩
          intro entry member
          rw [inside_iff]
          intro i set
          -- what is left is part of what there was
          have left := inside_iff.mp (ih entry member) i set
          rw [testBit_bitClear, Bool.and_eq_true] at left
          exact left.1
      · exact ih

theorem taken_apart (remaining : Int) (table : FlagTable) :
    (taken remaining table).Pairwise fun first second => Apart first.2 second.2 := by
  induction table generalizing remaining with
  | nil => exact .nil
  | cons first rest ih =>
      rw [taken]
      split
      · refine List.pairwise_cons.mpr ⟨?_, ih _⟩
        intro entry member
        rw [apart_iff]
        intro i set
        rw [Bool.eq_false_iff]
        intro shared
        -- the bits of the first flag are gone when the others are taken
        have left := inside_iff.mp (taken_inside entry member) i shared
        rw [testBit_bitClear, set] at left
        simp at left
      · exact ih remaining

/-- What is left of a mask are its bits that are not those of a flag that was taken. -/
theorem testBit_left (remaining : Int) (table : FlagTable) (i : Nat) :
    (take remaining table).2.testBit i =
      (remaining.testBit i && !(union (masks (taken remaining table))).testBit i) := by
  induction table generalizing remaining with
  | nil =>
      show remaining.testBit i = (remaining.testBit i && !(union []).testBit i)
      rw [union, List.foldr_nil, testBit_zero, Bool.not_false, Bool.and_true]
  | cons entry rest ih =>
      rw [take_cons, taken]
      split
      · show _ = (remaining.testBit i && !(union (entry.2 :: masks _)).testBit i)
        rw [ih, testBit_union_cons, testBit_bitClear, Bool.not_or, Bool.and_assoc]
      · exact ih remaining

theorem testBit_union {flags : List Int} {i : Nat} :
    (union flags).testBit i = true ↔ ∃ flag ∈ flags, flag.testBit i = true := by
  induction flags with
  | nil => simp [union, testBit_zero]
  | cons flag rest ih => rw [testBit_union_cons, Bool.or_eq_true, ih, List.exists_mem_cons_iff]

theorem inside_union {flags : List Int} {flag : Int} (member : flag ∈ flags) :
    Inside flag (union flags) :=
  inside_iff.mpr fun _ set => testBit_union.mpr ⟨flag, member, set⟩

/-! ## The order in which flags are tried -/

/-- Whether a flag comes before another one: it has more bits, or as many and a smaller value. -/
def Before (first second : String × Int) : Prop :=
  bitCount second.2 < bitCount first.2 ∨
    (bitCount first.2 = bitCount second.2 ∧ first.2 < second.2)

theorem triedBefore_iff {first second : String × Int} :
    triedBefore first second = true ↔
      bitCount second.2 < bitCount first.2 ∨
        (bitCount first.2 = bitCount second.2 ∧ first.2 ≤ second.2) := by
  simp [triedBefore]

theorem byWidth_pairwise (table : FlagTable) :
    table.byWidth.Pairwise fun first second => triedBefore first second = true := by
  refine List.pairwise_mergeSort ?_ ?_ _
  · intro first second third front back
    rw [triedBefore_iff] at front back ⊢
    omega
  · intro first second
    rw [Bool.or_eq_true, triedBefore_iff, triedBefore_iff]
    omega

/-! ## Nested tables -/

/-- A table without negative flags, any two of which are apart or one inside the other. -/
structure IsNested (table : FlagTable) : Prop where
  positive : ∀ entry ∈ table, 0 ≤ entry.2
  nested : ∀ first ∈ table, ∀ second ∈ table,
    Apart first.2 second.2 ∨ Inside first.2 second.2 ∨ Inside second.2 first.2

theorem IsNested.of_subset {table part : FlagTable} (nested : table.IsNested)
    (subset : ∀ entry ∈ part, entry ∈ table) : part.IsNested where
  positive entry member := nested.positive entry (subset entry member)
  nested first member second member' :=
    nested.nested first (subset first member) second (subset second member')

theorem typeFlags_isNested : typeFlags.IsNested :=
  ⟨by decide +kernel, by decide +kernel⟩

/-- **The widest flags.** A flag inside a mask lies inside one that is taken out of the mask. -/
theorem taken_widest {remaining : Int} {table : FlagTable} (nested : table.IsNested)
    (sorted : table.Pairwise fun first second => triedBefore first second = true)
    {entry : String × Int} (member : entry ∈ table) (inside : Inside entry.2 remaining) :
    ∃ wide ∈ taken remaining table, Inside entry.2 wide.2 := by
  induction table generalizing remaining with
  | nil => simp at member
  | cons first rest ih =>
      obtain ⟨earlier, sorted⟩ := List.pairwise_cons.mp sorted
      have nested' : IsNested rest := nested.of_subset fun _ => List.mem_cons_of_mem _
      rw [taken]
      rcases List.mem_cons.mp member with rfl | later
      · rw [if_pos inside]
        exact ⟨entry, List.mem_cons_self, .refl entry.2⟩
      · by_cases takes : Inside first.2 remaining
        · rw [if_pos takes]
          rcases nested.nested first List.mem_cons_self entry member with apart | wider | within
          -- apart from the first flag, the flag lies in what that one leaves
          · have left : Inside entry.2 (bitClear remaining first.2) := by
              rw [inside_iff] at inside ⊢
              intro i set
              rw [testBit_bitClear, inside i set, apart_iff.mp apart.symm i set]
              rfl
            obtain ⟨wide, inTaken, held⟩ := ih nested' sorted later left
            exact ⟨wide, List.mem_cons_of_mem _ inTaken, held⟩
          -- the first flag lies inside the flag, and is no narrower than it
          · have order := triedBefore_iff.mp (earlier entry later)
            have same := wider.eq_of_bitCount_le (nested.positive first List.mem_cons_self)
              (nested.positive entry member) (by omega)
            exact ⟨first, List.mem_cons_self, same ▸ .refl first.2⟩
          · exact ⟨first, List.mem_cons_self, within⟩
        · rw [if_neg takes]
          exact ih nested' sorted later inside

/-! ## Covers -/

/-- Flags of a table that share no bits, make up a mask, and come with more bits first and smaller
values first. -/
structure IsCover (table : FlagTable) (mask : Int) (entries : FlagTable) : Prop where
  listed : ∀ entry ∈ entries, entry ∈ table ∧ entry.2 ≠ 0
  apart : entries.Pairwise fun first second => Apart first.2 second.2
  whole : union (masks entries) = mask
  ordered : entries.Pairwise Before

theorem cover_eq_ok_iff {table : FlagTable} {mask : Int} {names : List String}
    (nonzero : mask ≠ 0) :
    cover table mask = .ok names ↔
      (take mask table.byWidth).2 = 0 ∧ names = (taken mask table.byWidth).map (·.1) := by
  rw [cover, if_neg nonzero, ← take_names]
  show (if (take mask table.byWidth).2 = 0 then Except.ok (take mask table.byWidth).1
    else Except.error (RuleError.unsupportedType mask)) = _ ↔ _
  split
  · next none => simp [none, eq_comm]
  · next left => simp [left]

/-- If nothing is left of a mask, the flags that were taken are a cover of it. -/
theorem taken_isCover {table : FlagTable} {mask : Int}
    (none : (take mask table.byWidth).2 = 0) :
    IsCover table mask (taken mask table.byWidth) := by
  have sublist := taken_sublist mask table.byWidth
  have listed : ∀ entry ∈ taken mask table.byWidth, entry ∈ table ∧ entry.2 ≠ 0 :=
    fun entry member => mem_byWidth.mp (sublist.subset member)
  have apart := taken_apart mask table.byWidth
  refine ⟨listed, apart, ?_, ?_⟩
  · apply eq_of_testBit_eq
    intro i
    have left := testBit_left mask table.byWidth i
    rw [none, testBit_zero] at left
    cases set : (union (masks (taken mask table.byWidth))).testBit i with
    | false =>
        rw [set, Bool.not_false, Bool.and_true] at left
        exact left
    | true =>
        obtain ⟨flag, inTaken, bit⟩ := testBit_union.mp set
        obtain ⟨entry, member, rfl⟩ := List.mem_map.mp inTaken
        exact (inside_iff.mp (taken_inside entry member) i bit).symm
  · refine (apart.and ((byWidth_pairwise table).sublist sublist)).imp_of_mem ?_
    intro first second member _ both
    have order := triedBefore_iff.mp both.2
    -- flags of the same value are not apart
    have different : first.2 ≠ second.2 := by
      intro same
      have shared := both.1.eq_zero (.refl first.2) (same ▸ .refl first.2)
      exact (listed first member).2 shared
    rw [Before]
    omega

/-- Flags that are apart are no more than the flags that lie inside them. -/
theorem length_le_of_inside {entries : FlagTable} {flags : List Int}
    (apart : entries.Pairwise fun first second => Apart first.2 second.2)
    (held : ∀ entry ∈ entries, ∃ flag ∈ flags, flag ≠ 0 ∧ Inside flag entry.2) :
    entries.length ≤ flags.length := by
  induction entries generalizing flags with
  | nil => exact Nat.zero_le _
  | cons entry rest ih =>
      obtain ⟨others, apart⟩ := List.pairwise_cons.mp apart
      obtain ⟨⟨flag, member, nonzero, inside⟩, later⟩ := List.forall_mem_cons.mp held
      have behind : ∀ other ∈ rest, ∃ flag' ∈ flags.erase flag, flag' ≠ 0 ∧
          Inside flag' other.2 := by
        intro other inRest
        obtain ⟨flag', member', nonzero', inside'⟩ := later other inRest
        refine ⟨flag', ?_, nonzero', inside'⟩
        -- the flag inside the first entry lies in no other one
        have different : flag' ≠ flag := by
          rintro rfl
          exact nonzero ((others other inRest).eq_zero inside inside')
        exact (List.mem_erase_of_ne different).mpr member'
      have shorter := ih apart behind
      rw [List.length_erase_of_mem member] at shorter
      have filled := List.length_pos_of_mem member
      rw [List.length_cons]
      omega

section Nested

variable {table : FlagTable} (nested : table.IsNested)
include nested

/-- A nonzero flag inside a mask lies inside one that is taken. -/
theorem IsNested.held {name : String} {flag mask : Int} (member : (name, flag) ∈ table)
    (nonzero : flag ≠ 0) (inside : Inside flag mask) :
    ∃ wide ∈ taken mask table.byWidth, Inside flag wide.2 := by
  have nested' : table.byWidth.IsNested :=
    nested.of_subset fun entry member => (mem_byWidth.mp member).1
  exact taken_widest nested' (byWidth_pairwise table) (mem_byWidth.mpr ⟨member, nonzero⟩) inside

/-- Nothing is left of a union of flags. -/
theorem IsNested.exhausts {mask : Int} (isUnion : IsUnion table mask) :
    (take mask table.byWidth).2 = 0 := by
  obtain ⟨flags, listed, rfl⟩ := isUnion
  by_contra left
  obtain ⟨i, set⟩ := exists_bit left
  rw [testBit_left, Bool.and_eq_true, Bool.not_eq_true'] at set
  obtain ⟨flag, member, bit⟩ := testBit_union.mp set.1
  obtain ⟨name, inTable⟩ := listed flag member
  obtain ⟨wide, inTaken, held⟩ :=
    nested.held inTable (ne_zero_of_bit bit) (inside_union member)
  -- the bit is one of a flag that was taken, and was cleared with it
  have cleared : (union (masks (taken (union flags) table.byWidth))).testBit i = true :=
    testBit_union.mpr ⟨wide.2, List.mem_map_of_mem inTaken, inside_iff.mp held i bit⟩
  rw [set.2] at cleared
  simp at cleared

/-- Flags that make up a mask are no fewer than those that are taken out of it. -/
theorem IsNested.fewest {flags : List Int} (listed : ∀ flag ∈ flags, ∃ name, (name, flag) ∈ table) :
    (taken (union flags) table.byWidth).length ≤ flags.length := by
  have apart := taken_apart (union flags) table.byWidth
  refine length_le_of_inside apart ?_
  intro entry member
  have nonzero := (mem_byWidth.mp ((taken_sublist _ _).subset member)).2
  obtain ⟨i, set⟩ := exists_bit nonzero
  obtain ⟨flag, inFlags, bit⟩ := testBit_union.mp (inside_iff.mp (taken_inside entry member) i set)
  obtain ⟨name, inTable⟩ := listed flag inFlags
  obtain ⟨wide, inTaken, held⟩ :=
    nested.held inTable (ne_zero_of_bit bit) (inside_union inFlags)
  -- the flag lies inside one that is taken, and that one shares the bit with the entry
  have same : wide = entry := by
    by_contra different
    have : Std.Symm fun first second : String × Int => Apart first.2 second.2 :=
      ⟨fun _ _ => Apart.symm⟩
    have separate := apart.forall inTaken member different
    have none := apart_iff.mp separate i (inside_iff.mp held i bit)
    rw [set] at none
    simp at none
  exact ⟨flag, inFlags, ne_zero_of_bit bit, same ▸ held⟩

end Nested

/-- **Shortest covers.** The names that a nonzero mask is covered by are those of flags that share no
bits, make up the mask, and come with more bits first and smaller values first.  If any two flags of
the table are apart or one inside the other, as the type flags are, then the unions of flags are
covered and no other masks, and no flags that make up the mask are fewer. -/
theorem cover_shortest (table : FlagTable) {mask : Int} (nonzero : mask ≠ 0) :
    (∀ names, cover table mask = .ok names →
      ∃ entries, names = entries.map (·.1) ∧ IsCover table mask entries) ∧
    (table.IsNested →
      ((∃ names, cover table mask = .ok names) ↔ IsUnion table mask) ∧
      ∀ names flags, cover table mask = .ok names →
        (∀ flag ∈ flags, ∃ name, (name, flag) ∈ table) → union flags = mask →
          names.length ≤ flags.length) ∧
    typeFlags.IsNested := by
  refine ⟨?_, ?_, typeFlags_isNested⟩
  · intro names covered
    obtain ⟨none, rfl⟩ := (cover_eq_ok_iff nonzero).mp covered
    exact ⟨taken mask table.byWidth, rfl, taken_isCover none⟩
  · intro nested
    refine ⟨⟨?_, ?_⟩, ?_⟩
    · intro covered
      obtain ⟨names, covered⟩ := covered
      exact cover_isUnion covered
    · intro isUnion
      exact ⟨_, (cover_eq_ok_iff nonzero).mpr ⟨nested.exhausts isUnion, rfl⟩⟩
    · intro names flags covered listed whole
      obtain ⟨_, rfl⟩ := (cover_eq_ok_iff nonzero).mp covered
      rw [List.length_map, ← whole]
      exact nested.fewest listed

/-- The combined flag of the inbox is one of three names, where the single flags would be four. -/
theorem cover_shortest_inbox :
    let names := ["INBOX", "MANUAL", "PERIODIC"]
    let flags : List Int := [0x01, 0x02, 0x10, 0x100]
    (0x113 : Int) ≠ 0 ∧ typeFlags.IsNested ∧ cover typeFlags 0x113 = .ok names ∧
      (∀ flag ∈ flags, ∃ name, (name, flag) ∈ typeFlags) ∧ union flags = 0x113 ∧
      (∃ entries, names = entries.map (·.1) ∧ IsCover typeFlags 0x113 entries) ∧
      IsUnion typeFlags 0x113 ∧ names.length ≤ flags.length := by
  intro names flags
  have nonzero : (0x113 : Int) ≠ 0 := by decide
  obtain ⟨sound, shortest, nested⟩ := cover_shortest typeFlags nonzero
  have covered : cover typeFlags 0x113 = .ok names := by cbv
  have listed : ∀ flag ∈ flags, ∃ name, (name, flag) ∈ typeFlags := by
    have each : ∀ flag ∈ flags, ∃ entry ∈ typeFlags, entry.2 = flag := by decide
    intro flag member
    obtain ⟨entry, inTable, rfl⟩ := each flag member
    exact ⟨entry.1, inTable⟩
  have whole : union flags = 0x113 := by decide
  obtain ⟨covers, fewest⟩ := shortest nested
  exact ⟨nonzero, nested, covered, listed, whole, sound names covered,
    covers.mp ⟨names, covered⟩, fewest names flags covered listed whole⟩

end FlagTable

end MailFilters
