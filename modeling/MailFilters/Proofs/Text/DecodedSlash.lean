import MailFilters.Proofs.Text.Cut
import MailFilters.Proofs.Text.Percent
import Mathlib.Data.List.Infix

/-!
# Slashes in decoded text

A decoded text has a slash where the text has one or its escape, and nowhere else: the bytes of
other characters are all beyond ASCII, and an overlong form of a slash is a fault.

* **`leastValue`** — the least code point that a first byte and the ranges behind it leave room for.
* **`mem_decodeLenient_iff`** — an ASCII character is read where its byte is.
* **`HasEscapedSlash`**, **`slash_mem_percentBytes_iff`** — the escape of a slash, and the runs of
  ASCII characters whose bytes have a slash.
* **`slash_mem_percentDecode_iff`** — the texts with a slash in what they stand for.
* **`percentDecode_eq_nil_iff`** — only the empty text stands for the empty text.
-/

namespace MailFilters.Text

/-! ## Bytes of other characters -/

/-- The least code point that the bits of a first byte and the ranges of the bytes behind it leave
room for. -/
def leastValue (value : Nat) (ranges : List (Nat × Nat)) : Nat :=
  ranges.foldl (fun value range => 0x40 * value + (range.1 - 0x80)) value

theorem leastValue_nil (value : Nat) : leastValue value [] = value := rfl

theorem leastValue_cons (value : Nat) (range : Nat × Nat) (ranges : List (Nat × Nat)) :
    leastValue value (range :: ranges) =
      leastValue (0x40 * value + (range.1 - 0x80)) ranges := List.foldl_cons ..

theorem leastValue_mono {value value' : Nat} (less : value ≤ value') (ranges : List (Nat × Nat)) :
    leastValue value ranges ≤ leastValue value' ranges := by
  induction ranges generalizing value value' with
  | nil => exact less
  | cons range ranges ih =>
      rw [leastValue_cons, leastValue_cons]
      exact ih (by omega)

theorem le_leastValue (value : Nat) (ranges : List (Nat × Nat)) :
    value ≤ leastValue value ranges := by
  induction ranges generalizing value with
  | nil => exact Nat.le_refl value
  | cons range ranges ih =>
      rw [leastValue_cons]
      exact Nat.le_trans (by omega) (ih _)

/-- The least first byte has no bits of its own, and the range of the byte behind it makes up for
that. -/
theorem WideLead.second_room {lead : WideLead} {n : Nat} (above : lead.least ≤ n)
    (raised : 0x90 ≤ lead.low) :
    0x80 ≤ (lead.second n).1 ∧ 0x10 ≤ 0x40 * (n - lead.least) + ((lead.second n).1 - 0x80) := by
  unfold second
  split
  · constructor <;> omega
  · split
    · constructor <;> omega
    · constructor <;> omega

/-- A first byte of three bytes or more leaves no room for ASCII characters, and only bytes beyond
ASCII follow it. -/
theorem WideLead.shape_room {lead : WideLead} {n : Nat} (wide : lead = three ∨ lead = four)
    (above : lead.least ≤ n) :
    0x80 ≤ leastValue (lead.shape n).1 (lead.shape n).2 ∧
      ∀ range ∈ (lead.shape n).2, 0x80 ≤ range.1 := by
  have raised : 0x90 ≤ lead.low ∧ 1 ≤ lead.more := by rcases wide with rfl | rfl <;> decide
  obtain ⟨raised, more⟩ := raised
  obtain ⟨low, room⟩ := second_room above raised
  obtain ⟨others, count⟩ := Nat.exists_eq_add_of_le' more
  rw [shape, count, List.replicate_succ]
  constructor
  · rw [leastValue_cons, leastValue_cons]
    exact Nat.le_trans (by omega) (le_leastValue _ _)
  · refine List.forall_mem_cons.mpr ⟨low, List.forall_mem_cons.mpr ⟨Nat.le_refl _, ?_⟩⟩
    intro range member
    rw [List.eq_of_mem_replicate member]

/-- A first byte is the only one of its character, or it leaves no room for ASCII characters and
only bytes beyond ASCII follow it. -/
theorem leadShape_cases {byte value : Nat} {ranges : List (Nat × Nat)}
    (lead : leadShape? byte = some (value, ranges)) :
    (byte < 0x80 ∧ value = byte ∧ ranges = []) ∨
      (0x80 ≤ byte ∧ 0x80 ≤ leastValue value ranges ∧ ∀ range ∈ ranges, 0x80 ≤ range.1) := by
  by_cases one : byte < 0x80
  · rw [leadShape_one one] at lead
    obtain ⟨rfl, rfl⟩ := Prod.mk.inj (Option.some.inj lead)
    exact .inl ⟨one, rfl, rfl⟩
  refine .inr ⟨Nat.le_of_not_lt one, ?_⟩
  by_cases stray : byte < 0xC2
  · rw [leadShape?, if_neg one, if_pos stray] at lead
    simp at lead
  by_cases two : byte < 0xE0
  · rw [leadShape_two (Nat.le_of_not_lt stray) two] at lead
    obtain ⟨rfl, rfl⟩ := Prod.mk.inj (Option.some.inj lead)
    simp only [leastValue_cons, leastValue_nil, List.forall_mem_singleton]
    omega
  have room : ∀ {first : WideLead}, first = .three ∨ first = .four → first.least ≤ byte →
      byte < first.stop → 0x80 ≤ leastValue value ranges ∧ ∀ range ∈ ranges, 0x80 ≤ range.1 := by
    intro first wide above below
    rw [WideLead.leadShape_wide wide above below] at lead
    obtain ⟨rfl, rfl⟩ := Prod.mk.inj (Option.some.inj lead)
    exact WideLead.shape_room wide above
  by_cases three : byte < WideLead.three.stop
  · exact room (.inl rfl) (Nat.le_of_not_lt two) three
  by_cases four : byte < WideLead.four.stop
  · exact room (.inr rfl) (Nat.le_of_not_lt three) four
  · rw [leadShape?, if_neg one, if_neg stray, if_neg two, if_neg three, if_neg four] at lead
    simp at lead

/-- Reading goes over bytes beyond ASCII only, and the character that it ends with is not below
what there is room for. -/
theorem continueSequence_reads {ranges : List (Nat × Nat)} {seen : List UInt8} {value : Nat}
    {bytes left : List UInt8} {piece : Utf8Piece} (beyond : ∀ range ∈ ranges, 0x80 ≤ range.1)
    (read : continueSequence seen value ranges bytes = (piece, left)) :
    ∃ tails, bytes = tails ++ left ∧ (∀ byte ∈ tails, 0x80 ≤ byte.toNat) ∧
      ∀ c, piece = .char c → ∃ point, leastValue value ranges ≤ point ∧ c = Char.ofNat point := by
  induction ranges generalizing seen value bytes with
  | nil =>
      rw [continueSequence] at read
      obtain ⟨rfl, rfl⟩ := Prod.mk.inj read
      refine ⟨[], rfl, by simp, ?_⟩
      rintro c ⟨⟩
      exact ⟨value, Nat.le_refl _, rfl⟩
  | cons range ranges ih =>
      obtain ⟨low, high⟩ := range
      obtain ⟨first, others⟩ := List.forall_mem_cons.mp beyond
      cases bytes with
      | nil =>
          rw [continueSequence] at read
          obtain ⟨rfl, rfl⟩ := Prod.mk.inj read
          exact ⟨[], rfl, by simp, by simp⟩
      | cons byte rest =>
          rw [continueSequence] at read
          split at read
          · next fits =>
              obtain ⟨tails, rfl, outside, reads⟩ := ih others read
              refine ⟨byte :: tails, rfl,
                List.forall_mem_cons.mpr ⟨Nat.le_trans first fits.1, outside⟩, ?_⟩
              intro c same
              obtain ⟨point, above, rfl⟩ := reads c same
              have bits : low - 0x80 ≤ byte.toNat - 0x80 := Nat.sub_le_sub_right fits.1 _
              rw [leastValue_cons]
              exact ⟨point, Nat.le_trans
                (leastValue_mono (Nat.add_le_add_left bits _) ranges) above, rfl⟩
          · obtain ⟨rfl, rfl⟩ := Prod.mk.inj read
            exact ⟨[], rfl, by simp, by simp⟩

/-! ## ASCII characters -/

theorem toNat_ofNat_eq {point : Nat} {c : Char} (same : Char.ofNat point = c)
    (visible : 0 < c.toNat) : point = c.toNat := by
  subst same
  by_cases valid : point.isValidChar
  · rw [Char.ofNat, dif_pos valid]
    rfl
  · -- what is no code point stands for the null character
    rw [Char.ofNat, dif_neg valid] at visible
    exact absurd visible (by decide)

/-- A character of ASCII is the first piece if its byte is the first one, and what the first piece
takes besides has no byte of ASCII. -/
theorem firstPiece_reads {byte : UInt8} {rest left : List UInt8} {piece : Utf8Piece} {c : Char}
    (ascii : 0 < c.toNat ∧ c.toNat < 0x80) (read : firstPiece byte rest = (piece, left)) :
    (piece = .char c ↔ byte.toNat = c.toNat) ∧
      ∃ tails, rest = tails ++ left ∧ ∀ tail ∈ tails, 0x80 ≤ tail.toNat := by
  rw [firstPiece] at read
  cases lead : leadShape? byte.toNat with
  | none =>
      rw [lead] at read
      obtain ⟨rfl, rfl⟩ := Prod.mk.inj read
      refine ⟨⟨by simp, ?_⟩, [], rfl, by simp⟩
      intro same
      rw [same, leadShape_one ascii.2] at lead
      simp at lead
  | some shape =>
      obtain ⟨value, ranges⟩ := shape
      rw [lead] at read
      rcases leadShape_cases lead with ⟨one, rfl, rfl⟩ | ⟨more, room, beyond⟩
      · simp only [continueSequence] at read
        obtain ⟨rfl, rfl⟩ := Prod.mk.inj read
        refine ⟨?_, [], rfl, by simp⟩
        rw [Utf8Piece.char.injEq]
        constructor
        · exact fun same => toNat_ofNat_eq same ascii.1
        · intro same
          rw [same, Char.ofNat_toNat]
      · obtain ⟨tails, split, high, reads⟩ := continueSequence_reads beyond read
        refine ⟨⟨?_, fun same => by omega⟩, tails, split, high⟩
        intro same
        obtain ⟨point, above, equal⟩ := reads c same
        have own := toNat_ofNat_eq equal.symm ascii.1
        omega

theorem char_mem_pieces_iff {c : Char} (ascii : 0 < c.toNat ∧ c.toNat < 0x80)
    (bytes : List UInt8) : .char c ∈ pieces bytes ↔ ∃ byte ∈ bytes, byte.toNat = c.toNat := by
  induction bytes using pieces.induct with
  | case1 => simp [pieces]
  | case2 byte rest ih =>
      rw [pieces]
      cases read : firstPiece byte rest with
      | mk piece left =>
          rw [read] at ih
          obtain ⟨first, tails, rfl, high⟩ := firstPiece_reads ascii read
          rw [List.mem_cons, ih, eq_comm, first, List.exists_mem_cons_iff]
          refine or_congr_right ⟨?_, ?_⟩
          · rintro ⟨other, member, same⟩
            exact ⟨other, List.mem_append_right _ member, same⟩
          · rintro ⟨other, member, same⟩
            rcases List.mem_append.mp member with inside | behind
            · have above := high other inside
              omega
            · exact ⟨other, behind, same⟩

/-- An ASCII character is read where its byte is, and nowhere else. -/
theorem mem_decodeLenient_iff {c : Char} (ascii : 0 < c.toNat ∧ c.toNat < 0x80)
    (bytes : List UInt8) : c ∈ decodeLenient bytes ↔ ∃ byte ∈ bytes, byte.toNat = c.toNat := by
  rw [← char_mem_pieces_iff ascii, decodeLenient, List.mem_map]
  constructor
  · rintro ⟨piece, member, same⟩
    cases piece with
    | char d =>
        obtain rfl : d = c := same
        exact member
    | fault bytes cause =>
        obtain rfl : replacementChar = c := same
        exact absurd ascii.2 (by decide)
  · exact fun member => ⟨_, member, rfl⟩

theorem decodeLenient_nonempty {bytes : List UInt8} (nonempty : bytes ≠ []) :
    decodeLenient bytes ≠ [] := by
  cases bytes with
  | nil => exact absurd rfl nonempty
  | cons byte rest =>
      rw [decodeLenient, pieces]
      simp

/-! ## Escaped slashes -/

/-- Whether the escape of a slash is somewhere in a text. -/
def HasEscapedSlash (s : List Char) : Prop := ['%', '2', 'F'] <:+: s ∨ ['%', '2', 'f'] <:+: s

/-- An escape does not go on into a part that starts with a character that it does not have. -/
theorem hasEscapedSlash_append {s t : List Char}
    (foreign : ∀ c, t.head? = some c → c ∉ ['%', '2', 'F', 'f']) :
    HasEscapedSlash (s ++ t) ↔ HasEscapedSlash s ∨ HasEscapedSlash t := by
  have outside : ∀ pattern ⊆ ['%', '2', 'F', 'f'], ∀ c, t.head? = some c → c ∉ pattern :=
    fun pattern subset c head member => foreign c head (subset member)
  rw [HasEscapedSlash, infix_append_of_head (outside _ (by decide)),
    infix_append_of_head (outside _ (by decide))]
  exact or_or_or_comm

/-- The escape of a slash stands in front or further behind. -/
theorem hasEscapedSlash_cons {c : Char} {s : List Char} :
    HasEscapedSlash (c :: s) ↔
      (c = '%' ∧ (['2', 'F'] <+: s ∨ ['2', 'f'] <+: s)) ∨ HasEscapedSlash s := by
  rw [HasEscapedSlash, List.infix_cons_iff, List.infix_cons_iff, List.cons_prefix_cons,
    List.cons_prefix_cons, or_or_or_comm, ← and_or_left, eq_comm]
  rfl

/-- A hexadecimal digit is one of three ranges of characters. -/
theorem hexValue_cases {c : Char} {value : Nat} (digit : hexValue? c = some value) :
    (0x30 ≤ c.toNat ∧ c.toNat ≤ 0x39 ∧ value = c.toNat - 0x30) ∨
      (0x61 ≤ c.toNat ∧ c.toNat ≤ 0x66 ∧ value = c.toNat - 0x57) ∨
      (0x41 ≤ c.toNat ∧ c.toNat ≤ 0x46 ∧ value = c.toNat - 0x37) := by
  unfold hexValue? at digit
  split at digit
  · next decimal =>
      obtain ⟨low, high⟩ := Bool.and_eq_true_iff.mp decimal
      exact .inl ⟨of_decide_eq_true low, of_decide_eq_true high, (Option.some.inj digit).symm⟩
  · split at digit
    · next small =>
        obtain ⟨low, high⟩ := Bool.and_eq_true_iff.mp small
        exact .inr (.inl
          ⟨of_decide_eq_true low, of_decide_eq_true high, (Option.some.inj digit).symm⟩)
    · split at digit
      · next capital =>
          obtain ⟨low, high⟩ := Bool.and_eq_true_iff.mp capital
          exact .inr (.inr
            ⟨of_decide_eq_true low, of_decide_eq_true high, (Option.some.inj digit).symm⟩)
      · simp at digit

/-- Two hexadecimal digits are the byte of a slash if they are those of its escape. -/
theorem hexByte_slash_iff {high low : Char} {h l : Nat} (first : hexValue? high = some h)
    (second : hexValue? low = some l) :
    (UInt8.ofNat (16 * h + l)).toNat = '/'.toNat ↔ high = '2' ∧ (low = 'F' ∨ low = 'f') := by
  have slash : '/'.toNat = 0x2F := rfl
  have two : '2'.toNat = 0x32 := rfl
  have capital : 'F'.toNat = 0x46 := rfl
  have small : 'f'.toNat = 0x66 := rfl
  have front := hexValue_cases first
  have back := hexValue_cases second
  rw [toNat_byte (by omega), ← Char.toNat_inj, ← Char.toNat_inj, ← Char.toNat_inj]
  omega

theorem hexValue_ne {c : Char} {value : Nat} (digit : hexValue? c = some value) (mark : Char)
    (other : hexValue? mark = none) : c ≠ mark := by
  rintro rfl
  rw [other] at digit
  simp at digit

theorem hasEscapedSlash_nil : ¬ HasEscapedSlash [] := by simp [HasEscapedSlash]

/-- A slash is no part of the escape of one. -/
theorem hasEscapedSlash_append_slash {s t : List Char} :
    HasEscapedSlash (s ++ '/' :: t) ↔ HasEscapedSlash s ∨ HasEscapedSlash t := by
  rw [hasEscapedSlash_append (by simp [eq_comm]), hasEscapedSlash_cons]
  simp

/-- Slashes in front of a text are no part of an escape. -/
theorem hasEscapedSlash_behind_slashes {slashes s : List Char} (only : ∀ c ∈ slashes, c = '/') :
    HasEscapedSlash (slashes ++ s) ↔ HasEscapedSlash s := by
  induction slashes with
  | nil => rfl
  | cons c slashes ih =>
      obtain ⟨rfl, others⟩ := List.forall_mem_cons.mp only
      rw [List.cons_append, hasEscapedSlash_cons, ih others]
      simp

/-- Slashes at the end of a text are no part of an escape. -/
theorem hasEscapedSlash_before_slashes {slashes s : List Char} (only : ∀ c ∈ slashes, c = '/') :
    HasEscapedSlash (s ++ slashes) ↔ HasEscapedSlash s := by
  have slash : ∀ c, slashes.head? = some c → c = '/' :=
    fun c head => only c (List.mem_of_mem_head? head)
  rw [hasEscapedSlash_append fun c head => by rw [slash c head]; decide, or_iff_left]
  have none := @hasEscapedSlash_behind_slashes slashes [] only
  rw [List.append_nil] at none
  exact mt none.mp hasEscapedSlash_nil

/-- A joined text has the escape of a slash if one of its parts has. -/
theorem hasEscapedSlash_joinWith {parts : List (List Char)} :
    HasEscapedSlash (joinWith ['/'] parts) ↔ ∃ part ∈ parts, HasEscapedSlash part := by
  induction parts with
  | nil => simp [joinWith, hasEscapedSlash_nil]
  | cons part rest ih =>
      cases rest with
      | nil => simp [joinWith]
      | cons next rest =>
          have joined : joinWith ['/'] (part :: next :: rest) =
              part ++ '/' :: joinWith ['/'] (next :: rest) := by simp [joinWith]
          rw [joined, hasEscapedSlash_append_slash, ih, List.exists_mem_cons_iff _ part]

/-- Where no escape starts, the escape of a slash is further behind. -/
theorem escapedSlash_behind {c : Char} {s : List Char}
    (none : ∀ high low rest h l, c = '%' → s = high :: low :: rest → hexValue? high = some h →
      hexValue? low = some l → False) :
    HasEscapedSlash (c :: s) ↔ HasEscapedSlash s := by
  rw [hasEscapedSlash_cons, or_iff_right]
  rintro ⟨percent, ⟨rest, rfl⟩ | ⟨rest, rfl⟩⟩
  · exact none '2' 'F' rest 2 15 percent rfl (by decide) (by decide)
  · exact none '2' 'f' rest 2 15 percent rfl (by decide) (by decide)

/-- The bytes of ASCII text have a slash if the text has one or its escape. -/
theorem slash_mem_percentBytes_iff {s : List Char} (ascii : ∀ c ∈ s, isAscii c = true) :
    (∃ byte ∈ percentBytes s, byte.toNat = '/'.toNat) ↔ '/' ∈ s ∨ HasEscapedSlash s := by
  induction s using percentBytes.induct with
  | case1 => simp [percentBytes, HasEscapedSlash]
  | case2 high low rest h l second first ih =>
      have behind := ih fun c member =>
        ascii c (List.mem_cons_of_mem _ (List.mem_cons_of_mem _ (List.mem_cons_of_mem _ member)))
      have bytes : percentBytes ('%' :: high :: low :: rest) =
          UInt8.ofNat (16 * h + l) :: percentBytes rest := by
        rw [percentBytes, first, second]
      have plain : '/' ∈ '%' :: high :: low :: rest ↔ '/' ∈ rest := by
        simp [(hexValue_ne first '/' (by decide)).symm,
          (hexValue_ne second '/' (by decide)).symm]
      have escaped : HasEscapedSlash ('%' :: high :: low :: rest) ↔
          (high = '2' ∧ (low = 'F' ∨ low = 'f')) ∨ HasEscapedSlash rest := by
        rw [hasEscapedSlash_cons, hasEscapedSlash_cons, hasEscapedSlash_cons]
        simp [List.cons_prefix_cons, hexValue_ne first '%' (by decide),
          hexValue_ne second '%' (by decide), eq_comm, and_or_left]
      rw [bytes, List.exists_mem_cons_iff, hexByte_slash_iff first second, behind, plain, escaped]
      exact or_left_comm
  | case3 high low rest invalid ih =>
      have behind := ih fun c member => ascii c (List.mem_cons_of_mem _ member)
      have bytes : percentBytes ('%' :: high :: low :: rest) =
          0x25 :: percentBytes (high :: low :: rest) := by
        rw [percentBytes]
        split
        · next h l first second => exact (invalid h l first second).elim
        · rfl
      have escaped : HasEscapedSlash ('%' :: high :: low :: rest) ↔
          HasEscapedSlash (high :: low :: rest) := by
        refine escapedSlash_behind ?_
        rintro _ _ _ h l _ ⟨⟩ first second
        exact invalid h l first second
      rw [bytes, List.exists_mem_cons_iff, behind, escaped]
      simp
  | case4 c rest other ih =>
      have behind := ih fun d member => ascii d (List.mem_cons_of_mem _ member)
      have small : c.toNat < 0x80 := of_decide_eq_true (ascii c List.mem_cons_self)
      rw [percentBytes, List.exists_mem_cons_iff, behind, escapedSlash_behind,
        toNat_byte (by omega), Char.toNat_inj, List.mem_cons, or_assoc, eq_comm]
      · exact fun high low later _ _ percent split _ _ => other high low later percent split
      · exact other

/-! ## Decoding -/

theorem percentBytes_nonempty {s : List Char} (nonempty : s ≠ []) : percentBytes s ≠ [] := by
  fun_cases percentBytes s <;> simp_all

/-- A decoded text has a slash if the text has one or its escape. -/
theorem slash_mem_percentDecode_iff {s : List Char} :
    '/' ∈ percentDecode s ↔ '/' ∈ s ∨ HasEscapedSlash s := by
  induction s using percentDecode.induct with
  | case1 => simp [percentDecode, HasEscapedSlash]
  | case2 c rest ascii ih =>
      -- the run of ASCII characters ends before a character that no escape has
      obtain ⟨whole, run, stop⟩ := run_at_start isAscii rest
      have run' : ∀ d ∈ c :: rest.takeWhile isAscii, isAscii d = true :=
        List.forall_mem_cons.mpr ⟨ascii, run⟩
      have parts : c :: rest = (c :: rest.takeWhile isAscii) ++ rest.dropWhile isAscii :=
        congrArg (c :: ·) whole
      have plain : ∀ d ∈ ['%', '2', 'F', 'f'], isAscii d = true := List.all_eq_true.mp (by decide)
      have foreign : ∀ d, (rest.dropWhile isAscii).head? = some d → d ∉ ['%', '2', 'F', 'f'] := by
        intro d head member
        exact absurd (plain d member) (by simp [stop d head])
      rw [percentDecode, if_pos ascii, List.mem_append, ih, mem_decodeLenient_iff (by decide),
        slash_mem_percentBytes_iff run']
      conv_rhs => rw [parts, List.mem_append, hasEscapedSlash_append foreign]
      exact or_or_or_comm
  | case3 c rest foreign ih =>
      rw [percentDecode, if_neg foreign, List.mem_cons, ih, List.mem_cons, or_assoc,
        escapedSlash_behind]
      rintro high low later h l rfl
      exact absurd (by decide) foreign

/-- Only the empty text stands for the empty text. -/
theorem percentDecode_eq_nil_iff {s : List Char} : percentDecode s = [] ↔ s = [] := by
  cases s with
  | nil => simp [percentDecode]
  | cons c rest =>
      refine ⟨fun empty => ?_, by simp⟩
      rw [percentDecode] at empty
      split at empty
      · have none := (List.append_eq_nil_iff.mp empty).1
        exact absurd none (decodeLenient_nonempty (percentBytes_nonempty (by simp)))
      · simp at empty

end MailFilters.Text
