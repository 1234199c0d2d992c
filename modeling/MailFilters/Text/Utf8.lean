/-!
# UTF-8

Bytes are cut into pieces: a piece is a character, or the bytes at fault, which are the longest
start of a well-formed sequence (one byte at least).

* **`pieces`** — the pieces of a byte string, in order.
* **`decodeStrict`** — the characters, or where the first fault is.
* **`decodeLenient`** — the characters, with one replacement character for each fault.
-/

namespace MailFilters.Text

/-- Why bytes are no UTF-8. -/
inductive Utf8Fault
  | badStart
  | badContinuation
  | endOfData
  deriving DecidableEq, Repr

/-- The wording of a fault. -/
def Utf8Fault.reason : Utf8Fault → String
  | .badStart => "invalid start byte"
  | .badContinuation => "invalid continuation byte"
  | .endOfData => "unexpected end of data"

/-- A piece of a byte string: a character, or bytes at fault. -/
inductive Utf8Piece
  | char (c : Char)
  | fault (bytes : List UInt8) (cause : Utf8Fault)
  deriving DecidableEq, Repr

/-- The first bytes of the sequences of one length above two.  Behind the least of them the second
byte is `low` at least, which keeps out overlong forms; behind the one that is `bounded` it is
`high` at most, which keeps out surrogates or what lies beyond the last code point. -/
structure WideLead where
  least : Nat
  stop : Nat
  low : Nat
  bounded : Nat
  high : Nat
  /-- How many bytes there are behind the second one. -/
  more : Nat

namespace WideLead

/-- The first bytes of sequences of three bytes. -/
def three : WideLead :=
  { least := 0xE0, stop := 0xF0, low := 0xA0, bounded := 0xED, high := 0x9F, more := 1 }

/-- The first bytes of sequences of four bytes. -/
def four : WideLead :=
  { least := 0xF0, stop := 0xF5, low := 0x90, bounded := 0xF4, high := 0x8F, more := 2 }

/-- The range of the second byte. -/
def second (lead : WideLead) (byte : Nat) : Nat × Nat :=
  if byte = lead.least then (lead.low, 0xBF)
  else if byte = lead.bounded then (0x80, lead.high)
  else (0x80, 0xBF)

/-- The bits that a first byte contributes and the ranges of the bytes after it. -/
def shape (lead : WideLead) (byte : Nat) : Nat × List (Nat × Nat) :=
  (byte - lead.least, lead.second byte :: List.replicate lead.more (0x80, 0xBF))

end WideLead

/-- The bits that a first byte contributes and the ranges that the bytes after it must lie in. -/
def leadShape? (byte : Nat) : Option (Nat × List (Nat × Nat)) :=
  if byte < 0x80 then some (byte, [])
  else if byte < 0xC2 then none
  else if byte < 0xE0 then some (byte - 0xC0, [(0x80, 0xBF)])
  else if byte < WideLead.three.stop then some (WideLead.three.shape byte)
  else if byte < WideLead.four.stop then some (WideLead.four.shape byte)
  else none

/-- Reads the bytes after a first byte.  `seen` holds the bytes of the sequence so far and
`value` their bits; the second component is what is left. -/
def continueSequence (seen : List UInt8) (value : Nat) :
    List (Nat × Nat) → List UInt8 → Utf8Piece × List UInt8
  | [], rest => (.char (Char.ofNat value), rest)
  | _ :: _, [] => (.fault seen .endOfData, [])
  | (low, high) :: ranges, byte :: rest =>
    if low ≤ byte.toNat ∧ byte.toNat ≤ high then
      continueSequence (seen ++ [byte]) (0x40 * value + (byte.toNat - 0x80)) ranges rest
    else (.fault seen .badContinuation, byte :: rest)

/-- The first piece of a byte string that starts with `byte`, and what is left after it. -/
def firstPiece (byte : UInt8) (rest : List UInt8) : Utf8Piece × List UInt8 :=
  match leadShape? byte.toNat with
  | none => (.fault [byte] .badStart, rest)
  | some (value, ranges) => continueSequence [byte] value ranges rest

theorem continueSequence_length_le (seen : List UInt8) (value : Nat) (ranges : List (Nat × Nat))
    (bytes : List UInt8) :
    (continueSequence seen value ranges bytes).2.length ≤ bytes.length := by
  induction ranges generalizing seen value bytes with
  | nil => simp [continueSequence]
  | cons range ranges ih =>
      cases bytes with
      | nil => simp [continueSequence]
      | cons byte rest =>
          simp only [continueSequence]
          split
          · exact Nat.le_succ_of_le (ih _ _ rest)
          · simp

theorem firstPiece_length_le (byte : UInt8) (rest : List UInt8) :
    (firstPiece byte rest).2.length ≤ rest.length := by
  unfold firstPiece
  split
  · simp
  · exact continueSequence_length_le _ _ _ rest

/-- The pieces of a byte string, in order. -/
def pieces : List UInt8 → List Utf8Piece
  | [] => []
  | byte :: rest => (firstPiece byte rest).1 :: pieces (firstPiece byte rest).2
termination_by bytes => bytes.length
decreasing_by exact Nat.lt_succ_of_le (firstPiece_length_le byte rest)

/-- The bytes at fault in a byte string: their offset, themselves and the cause. -/
structure Utf8Error where
  offset : Nat
  bytes : List UInt8
  cause : Utf8Fault
  deriving DecidableEq, Repr

/-- The characters of pieces that stand behind `offset` bytes, or the first fault. -/
def strictFrom (offset : Nat) : List Utf8Piece → Except Utf8Error (List Char)
  | [] => .ok []
  | .char c :: rest => (strictFrom (offset + c.utf8Size) rest).map (c :: ·)
  | .fault bytes cause :: _ => .error ⟨offset, bytes, cause⟩

/-- The characters of a byte string, or its first fault. -/
def decodeStrict (bytes : List UInt8) : Except Utf8Error (List Char) := strictFrom 0 (pieces bytes)

/-- The character that stands for bytes at fault. -/
def replacementChar : Char := Char.ofNat 0xFFFD

/-- The characters of a byte string, with a replacement character for each fault. -/
def decodeLenient (bytes : List UInt8) : List Char :=
  (pieces bytes).map fun
    | .char c => c
    | .fault .. => replacementChar

/-- The bytes of a text. -/
def encodeUtf8 (s : List Char) : List UInt8 := s.flatMap String.utf8EncodeChar

end MailFilters.Text
