import MailFilters.Text.Utf8

/-!
# UTF-8 round trip

* **`pieces_encode`** — the bytes of a character are one piece, whatever follows them.
* **`decodeLenient_encode`**, **`decodeStrict_encode`** — the bytes of a text decode to that text.

A character has one to four bytes, and each length is a case of its own: the first byte gives the
length, and the range of the second one fits because the character is no surrogate and has no
shorter form.
-/

namespace MailFilters.Text

theorem toNat_byte {n : Nat} (small : n < 256) : (UInt8.ofNat n).toNat = n :=
  UInt8.toNat_ofNat_of_lt' small

theorem continueSequence_step {seen : List UInt8} {value low high n : Nat}
    {ranges : List (Nat × Nat)} {rest : List UInt8} (small : n < 256) (above : low ≤ n)
    (below : n ≤ high) :
    continueSequence seen value ((low, high) :: ranges) (UInt8.ofNat n :: rest) =
      continueSequence (seen ++ [UInt8.ofNat n]) (0x40 * value + (n - 0x80)) ranges rest := by
  rw [continueSequence, toNat_byte small, if_pos ⟨above, below⟩]

theorem firstPiece_of_lead {n value : Nat} {ranges : List (Nat × Nat)} {rest : List UInt8}
    (small : n < 256) (lead : leadShape? n = some (value, ranges)) :
    firstPiece (UInt8.ofNat n) rest = continueSequence [UInt8.ofNat n] value ranges rest := by
  rw [firstPiece, toNat_byte small, lead]

/-! ## First bytes -/

theorem leadShape_one {n : Nat} (below : n < 0x80) : leadShape? n = some (n, []) := by
  rw [leadShape?, if_pos below]

theorem leadShape_two {n : Nat} (above : 0xC2 ≤ n) (below : n < 0xE0) :
    leadShape? n = some (n - 0xC0, [(0x80, 0xBF)]) := by
  rw [leadShape?, if_neg (by omega), if_neg (by omega), if_pos below]

namespace WideLead

variable {lead : WideLead} {n : Nat}

theorem leadShape_wide (wide : lead = three ∨ lead = four) (above : lead.least ≤ n)
    (below : n < lead.stop) : leadShape? n = some (lead.shape n) := by
  rcases wide with rfl | rfl
  · have least : 0xE0 ≤ n := above
    rw [leadShape?, if_neg (by omega), if_neg (by omega), if_neg (by omega), if_pos below]
  · have least : 0xF0 ≤ n := above
    have others : ¬ n < three.stop := Nat.not_lt.mpr least
    rw [leadShape?, if_neg (by omega), if_neg (by omega), if_neg (by omega), if_neg others,
      if_pos below]

/-- A byte that may stand in a sequence is in the range of the second one if no other form of the
character is shorter and the character is there. -/
theorem second_fits (lead : WideLead) (n byte : Nat) (fits : 0x80 ≤ byte ∧ byte ≤ 0xBF)
    (shortest : n = lead.least → lead.low ≤ byte) (valid : n = lead.bounded → byte ≤ lead.high) :
    (lead.second n).1 ≤ byte ∧ byte ≤ (lead.second n).2 := by
  unfold second
  split
  · next least => exact ⟨shortest least, fits.2⟩
  · split
    · next bounded => exact ⟨fits.1, valid bounded⟩
    · exact fits

/-- The first two bytes of a sequence are read, and then the others. -/
theorem firstPiece_wide {byte : Nat} {rest : List UInt8} (wide : lead = three ∨ lead = four)
    (above : lead.least ≤ n) (below : n < lead.stop) (small : n < 256)
    (fits : 0x80 ≤ byte ∧ byte ≤ 0xBF) (shortest : n = lead.least → lead.low ≤ byte)
    (valid : n = lead.bounded → byte ≤ lead.high) :
    firstPiece (UInt8.ofNat n) (UInt8.ofNat byte :: rest) =
      continueSequence [UInt8.ofNat n, UInt8.ofNat byte]
        (0x40 * (n - lead.least) + (byte - 0x80)) (List.replicate lead.more (0x80, 0xBF)) rest := by
  obtain ⟨low, high⟩ := lead.second_fits n byte fits shortest valid
  rw [firstPiece_of_lead small (leadShape_wide wide above below),
    continueSequence_step (by omega) low high]
  rfl

end WideLead

/-! ## Characters -/

theorem firstPiece_two {v : Nat} {rest : List UInt8} (above : 0x80 ≤ v) (below : v ≤ 0x7FF) :
    firstPiece (UInt8.ofNat (v / 64 % 0x20 + 0xC0)) (UInt8.ofNat (v % 0x40 + 0x80) :: rest) =
      (.char (Char.ofNat v), rest) := by
  rw [firstPiece_of_lead (by omega) (leadShape_two (by omega) (by omega)),
    continueSequence_step (by omega) (by omega) (by omega), continueSequence]
  have bits : 0x40 * (v / 64 % 0x20 + 0xC0 - 0xC0) + (v % 0x40 + 0x80 - 0x80) = v := by omega
  rw [bits]

theorem firstPiece_three {v : Nat} {rest : List UInt8} (above : 0x800 ≤ v) (below : v ≤ 0xFFFF)
    (valid : v < 0xD800 ∨ 0xDFFF < v) :
    firstPiece (UInt8.ofNat (v / 4096 % 0x10 + 0xE0))
        (UInt8.ofNat (v / 64 % 0x40 + 0x80) :: UInt8.ofNat (v % 0x40 + 0x80) :: rest) =
      (.char (Char.ofNat v), rest) := by
  -- `E0` needs the value's lower bound and `ED` that it is no surrogate
  rw [WideLead.firstPiece_wide (.inl rfl) (show 0xE0 ≤ _ by omega) (show _ < 0xF0 by omega)
    (by omega) (by omega) (show _ = 0xE0 → 0xA0 ≤ _ by omega) (show _ = 0xED → _ ≤ 0x9F by omega)]
  simp only [WideLead.three, List.replicate]
  rw [continueSequence_step (by omega) (by omega) (by omega), continueSequence]
  have bits : 0x40 * (0x40 * (v / 4096 % 0x10 + 0xE0 - 0xE0) + (v / 64 % 0x40 + 0x80 - 0x80)) +
      (v % 0x40 + 0x80 - 0x80) = v := by omega
  rw [bits]

theorem firstPiece_four {v : Nat} {rest : List UInt8} (above : 0x10000 ≤ v)
    (below : v < 0x110000) :
    firstPiece (UInt8.ofNat (v / 262144 % 0x08 + 0xF0))
        (UInt8.ofNat (v / 4096 % 0x40 + 0x80) :: UInt8.ofNat (v / 64 % 0x40 + 0x80) ::
          UInt8.ofNat (v % 0x40 + 0x80) :: rest) =
      (.char (Char.ofNat v), rest) := by
  -- `F0` needs the value's lower bound and `F4` the upper one
  rw [WideLead.firstPiece_wide (.inr rfl) (show 0xF0 ≤ _ by omega) (show _ < 0xF5 by omega)
    (by omega) (by omega) (show _ = 0xF0 → 0x90 ≤ _ by omega) (show _ = 0xF4 → _ ≤ 0x8F by omega)]
  simp only [WideLead.four, List.replicate]
  rw [continueSequence_step (by omega) (by omega) (by omega),
    continueSequence_step (by omega) (by omega) (by omega), continueSequence]
  have bits : 0x40 * (0x40 * (0x40 * (v / 262144 % 0x08 + 0xF0 - 0xF0) +
      (v / 4096 % 0x40 + 0x80 - 0x80)) + (v / 64 % 0x40 + 0x80 - 0x80)) +
      (v % 0x40 + 0x80 - 0x80) = v := by omega
  rw [bits]

/-- The bytes of a character are one piece, whatever follows them. -/
theorem pieces_encode (c : Char) (rest : List UInt8) :
    pieces (String.utf8EncodeChar c ++ rest) = .char c :: pieces rest := by
  have valid : c.val.toNat < 0xD800 ∨ (0xDFFF < c.val.toNat ∧ c.val.toNat < 0x110000) := c.valid
  have same : Char.ofNat c.val.toNat = c := Char.ofNat_toNat c
  unfold String.utf8EncodeChar
  show pieces ((if c.val.toNat ≤ 0x7F then _ else _) ++ rest) = _
  by_cases one : c.val.toNat ≤ 0x7F
  · rw [if_pos one, List.singleton_append, pieces,
      firstPiece_of_lead (by omega) (leadShape_one (by omega)), continueSequence, same]
  · rw [if_neg one]
    by_cases two : c.val.toNat ≤ 0x7FF
    · rw [if_pos two, List.cons_append, List.singleton_append, pieces,
        firstPiece_two (by omega) two, same]
    · rw [if_neg two]
      by_cases three : c.val.toNat ≤ 0xFFFF
      · rw [if_pos three, List.cons_append, List.cons_append, List.singleton_append, pieces,
          firstPiece_three (by omega) three (by omega), same]
      · rw [if_neg three, List.cons_append, List.cons_append, List.cons_append,
          List.singleton_append, pieces, firstPiece_four (by omega) (by omega), same]

theorem pieces_encodeUtf8 (s : List Char) : pieces (encodeUtf8 s) = s.map .char := by
  induction s with
  | nil => rw [encodeUtf8, List.flatMap_nil, pieces, List.map_nil]
  | cons c rest ih =>
      rw [encodeUtf8, List.flatMap_cons, pieces_encode, List.map_cons]
      exact congrArg (_ :: ·) ih

/-- The bytes of a text decode to that text. -/
theorem decodeLenient_encode (s : List Char) : decodeLenient (encodeUtf8 s) = s := by
  rw [decodeLenient, pieces_encodeUtf8, List.map_map]
  exact List.map_id s

theorem strictFrom_chars (offset : Nat) (s : List Char) :
    strictFrom offset (s.map .char) = .ok s := by
  induction s generalizing offset with
  | nil => rfl
  | cons c rest ih =>
      rw [List.map_cons, strictFrom, ih]
      rfl

/-- The bytes of a text have no fault. -/
theorem decodeStrict_encode (s : List Char) : decodeStrict (encodeUtf8 s) = .ok s := by
  rw [decodeStrict, pieces_encodeUtf8, strictFrom_chars]

end MailFilters.Text
