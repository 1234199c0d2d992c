import MailFilters.Text.Digit
import MailFilters.Text.Utf8

/-!
# Percent encoding

* **`percentDecode`** — each maximal run of ASCII characters is decoded by itself: a percent sign
  before two hexadecimal digits is a byte, and the bytes of the run are UTF-8, read leniently.
  Other characters stay.
-/

namespace MailFilters.Text

/-- Whether a character is ASCII. -/
def isAscii (c : Char) : Bool := c.toNat < 0x80

/-- The bytes that a run of ASCII characters stands for. -/
def percentBytes : List Char → List UInt8
  | [] => []
  | '%' :: high :: low :: rest =>
    match hexValue? high, hexValue? low with
    | some h, some l => UInt8.ofNat (16 * h + l) :: percentBytes rest
    | _, _ => 0x25 :: percentBytes (high :: low :: rest)
  | c :: rest => UInt8.ofNat c.toNat :: percentBytes rest

theorem dropWhile_length_le (p : Char → Bool) (s : List Char) :
    (s.dropWhile p).length ≤ s.length := (List.dropWhile_suffix p).length_le

/-- A text with its percent escapes resolved. -/
def percentDecode : List Char → List Char
  | [] => []
  | c :: rest =>
    if isAscii c then
      decodeLenient (percentBytes (c :: rest.takeWhile isAscii)) ++
        percentDecode (rest.dropWhile isAscii)
    else c :: percentDecode rest
termination_by s => s.length
decreasing_by
  · exact Nat.lt_succ_of_le (dropWhile_length_le isAscii rest)
  · exact Nat.lt_succ_self _

end MailFilters.Text
