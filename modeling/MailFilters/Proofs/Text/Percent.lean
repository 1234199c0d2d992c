import MailFilters.Proofs.Text.Utf8
import MailFilters.Text.Percent
import Mathlib.Data.List.TakeWhile

/-!
# Percent encoding and back

* **`percentEncode`** — a text with every byte but those of letters, digits and `-._~` escaped.
* **`percentEncode_plain`** — the characters of such a text.
* **`percentDecode_encode`** — such a text decodes to the text that it is made of.
-/

namespace MailFilters.Text

/-- Whether a character stands for itself in an encoded text. -/
def isUnreserved (c : Char) : Bool :=
  isAsciiLetter c || isAsciiDigit c || c == '-' || c == '.' || c == '_' || c == '~'

/-- The capital hexadecimal digit with a value below sixteen. -/
def capitalHexChar (value : Nat) : Char :=
  if value < 10 then Char.ofNat (0x30 + value) else Char.ofNat (0x37 + value)

/-- The escape of a byte. -/
def percentEscape (byte : UInt8) : List Char :=
  ['%', capitalHexChar (byte.toNat / 16), capitalHexChar (byte.toNat % 16)]

/-- A character as it stands in an encoded text: itself, or the escapes of its bytes. -/
def percentEncodeChar (c : Char) : List Char :=
  if isUnreserved c then [c] else (String.utf8EncodeChar c).flatMap percentEscape

/-- A text with all but the unreserved characters escaped. -/
def percentEncode (s : List Char) : List Char := s.flatMap percentEncodeChar

/-- Whether a character may stand in an encoded text. -/
def isEncodedChar (c : Char) : Bool := isUnreserved c || c == '%'

/-! ## The characters of an encoded text -/

theorem hexValue_capitalHexChar : ∀ n < 16, hexValue? (capitalHexChar n) = some n := by decide

theorem capitalHexChar_plain : ∀ n < 16, isEncodedChar (capitalHexChar n) = true := by decide

theorem toNat_high (byte : UInt8) : byte.toNat / 16 < 16 := by
  have small := byte.toNat_lt
  omega

theorem toNat_low (byte : UInt8) : byte.toNat % 16 < 16 := Nat.mod_lt _ (by decide)

theorem percentEscape_plain (byte : UInt8) : ∀ c ∈ percentEscape byte, isEncodedChar c = true := by
  intro c member
  simp only [percentEscape, List.mem_cons, List.not_mem_nil, or_false] at member
  rcases member with rfl | rfl | rfl
  · decide
  · exact capitalHexChar_plain _ (toNat_high byte)
  · exact capitalHexChar_plain _ (toNat_low byte)

theorem percentEncode_plain (s : List Char) : ∀ c ∈ percentEncode s, isEncodedChar c = true := by
  intro c member
  obtain ⟨d, _, inside⟩ := List.mem_flatMap.mp member
  unfold percentEncodeChar at inside
  split at inside
  · next unreserved =>
      rw [List.mem_singleton.mp inside, isEncodedChar, unreserved]
      rfl
  · obtain ⟨byte, _, escaped⟩ := List.mem_flatMap.mp inside
    exact percentEscape_plain byte c escaped

theorem percentEncode_nonempty {s : List Char} (nonempty : s ≠ []) : percentEncode s ≠ [] := by
  cases s with
  | nil => exact absurd rfl nonempty
  | cons c rest =>
      rw [percentEncode, List.flatMap_cons]
      unfold percentEncodeChar
      split
      · simp
      · cases bytes : String.utf8EncodeChar c with
        | nil => exact absurd bytes String.utf8EncodeChar_ne_nil
        | cons byte bytes => simp [percentEscape]

theorem isEncodedChar_ascii {c : Char} (plain : isEncodedChar c = true) : c.toNat < 0x80 := by
  simp only [isEncodedChar, isUnreserved, isAsciiLetter, isAsciiDigit, Bool.or_eq_true,
    Bool.and_eq_true, decide_eq_true_eq, beq_iff_eq] at plain
  rcases plain with ((((((⟨_, high⟩ | ⟨_, high⟩) | ⟨_, high⟩) | rfl) | rfl) | rfl) | rfl) | rfl
  · exact Nat.lt_of_le_of_lt high (by decide)
  · exact Nat.lt_of_le_of_lt high (by decide)
  · exact Nat.lt_of_le_of_lt high (by decide)
  all_goals decide

/-! ## Encoded text between marks -/

/-- A text of encoded characters and marks. -/
def IsMadeOf (marks s : List Char) : Prop := ∀ c ∈ s, isEncodedChar c = true ∨ c ∈ marks

theorem IsMadeOf.nil (marks : List Char) : IsMadeOf marks [] := fun c member => by simp at member

theorem IsMadeOf.encode (marks s : List Char) : IsMadeOf marks (percentEncode s) :=
  fun c member => .inl (percentEncode_plain s c member)

theorem IsMadeOf.append {marks s t : List Char} (first : IsMadeOf marks s)
    (second : IsMadeOf marks t) : IsMadeOf marks (s ++ t) := by
  intro c member
  rcases List.mem_append.mp member with inside | inside
  · exact first c inside
  · exact second c inside

theorem IsMadeOf.cons {marks s : List Char} {mark : Char} (listed : mark ∈ marks)
    (rest : IsMadeOf marks s) : IsMadeOf marks (mark :: s) := by
  intro c member
  rcases List.mem_cons.mp member with rfl | inside
  · exact .inr listed
  · exact rest c inside

theorem IsMadeOf.mono {marks marks' s : List Char} (made : IsMadeOf marks s)
    (more : ∀ c ∈ marks, c ∈ marks') : IsMadeOf marks' s :=
  fun c member => (made c member).imp_right (more c)

/-- Any other character is not in the text. -/
theorem IsMadeOf.free {marks s : List Char} (made : IsMadeOf marks s) {c : Char}
    (foreign : isEncodedChar c = false) (unlisted : c ∉ marks) : c ∉ s := by
  intro member
  rcases made c member with encoded | listed
  · rw [encoded] at foreign
    simp at foreign
  · exact unlisted listed

theorem IsMadeOf.ascii {marks s : List Char} (made : IsMadeOf marks s)
    (plain : ∀ c ∈ marks, c.toNat < 0x80) {c : Char} (member : c ∈ s) : c.toNat < 0x80 := by
  rcases made c member with encoded | listed
  · exact isEncodedChar_ascii encoded
  · exact plain c listed

/-! ## Decoding -/

theorem percentBytes_escape (byte : UInt8) (rest : List Char) :
    percentBytes (percentEscape byte ++ rest) = byte :: percentBytes rest := by
  have whole : 16 * (byte.toNat / 16) + byte.toNat % 16 = byte.toNat := by omega
  rw [percentEscape, List.cons_append, List.cons_append, List.singleton_append, percentBytes,
    hexValue_capitalHexChar _ (toNat_high byte), hexValue_capitalHexChar _ (toNat_low byte)]
  show UInt8.ofNat (16 * (byte.toNat / 16) + byte.toNat % 16) :: _ = _
  rw [whole, UInt8.ofNat_toNat]

theorem percentBytes_escapes (bytes : List UInt8) (rest : List Char) :
    percentBytes (bytes.flatMap percentEscape ++ rest) = bytes ++ percentBytes rest := by
  induction bytes with
  | nil => rfl
  | cons byte bytes ih =>
      rw [List.flatMap_cons, List.append_assoc, percentBytes_escape, ih]
      rfl

theorem percentBytes_plain {c : Char} (plain : c ≠ '%') (rest : List Char) :
    percentBytes (c :: rest) = UInt8.ofNat c.toNat :: percentBytes rest := by
  rw [percentBytes]
  intro high low rest' same
  exact absurd same plain

theorem utf8EncodeChar_ascii {c : Char} (ascii : c.toNat < 0x80) :
    String.utf8EncodeChar c = [UInt8.ofNat c.toNat] := by
  have one : c.val.toNat ≤ 0x7F := Nat.le_of_lt_succ ascii
  unfold String.utf8EncodeChar
  exact if_pos one

theorem isUnreserved_ascii {c : Char} (unreserved : isUnreserved c = true) : c.toNat < 0x80 :=
  isEncodedChar_ascii (by rw [isEncodedChar, unreserved]; rfl)

theorem percentBytes_encode (s rest : List Char) :
    percentBytes (percentEncode s ++ rest) = encodeUtf8 s ++ percentBytes rest := by
  induction s with
  | nil => rfl
  | cons c s ih =>
      have split : percentEncode (c :: s) = percentEncodeChar c ++ percentEncode s := rfl
      have bytes : encodeUtf8 (c :: s) = String.utf8EncodeChar c ++ encodeUtf8 s := rfl
      rw [split, bytes, List.append_assoc, List.append_assoc, ← ih]
      unfold percentEncodeChar
      by_cases unreserved : isUnreserved c = true
      · have plain : c ≠ '%' := by
          rintro rfl
          exact absurd unreserved (by decide)
        rw [if_pos unreserved, List.singleton_append, percentBytes_plain plain,
          utf8EncodeChar_ascii (isUnreserved_ascii unreserved)]
        rfl
      · rw [if_neg unreserved, percentBytes_escapes]

theorem percentDecode_ascii {s : List Char} (ascii : ∀ c ∈ s, isAscii c = true) :
    percentDecode s = decodeLenient (percentBytes s) := by
  cases s with
  | nil =>
      rw [percentDecode, percentBytes, decodeLenient, pieces]
      rfl
  | cons c rest =>
      -- the whole text is one run, whose bytes are decoded together
      have behind : ∀ d ∈ rest, isAscii d = true := fun d member =>
        ascii d (List.mem_cons_of_mem c member)
      have whole : rest.takeWhile isAscii = rest := List.takeWhile_eq_self_iff.mpr behind
      have none : rest.dropWhile isAscii = [] := List.dropWhile_eq_nil_iff.mpr behind
      rw [percentDecode, if_pos (ascii c List.mem_cons_self), whole, none, percentDecode,
        List.append_nil]

/-- An encoded text decodes to the text that it is made of. -/
theorem percentDecode_encode (s : List Char) : percentDecode (percentEncode s) = s := by
  have bytes := percentBytes_encode s []
  rw [List.append_nil, percentBytes, List.append_nil] at bytes
  rw [percentDecode_ascii, bytes, decodeLenient_encode]
  intro c member
  exact decide_eq_true (isEncodedChar_ascii (percentEncode_plain s c member))

end MailFilters.Text
