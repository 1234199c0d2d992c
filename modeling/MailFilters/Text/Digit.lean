import MailFilters.Text.CodeRange

/-!
# Decimal digits and numerals

* **`digitValue?`** — the value of a decimal digit of any script.
* **`decimalValue`** — the number that a run of digits writes.
* **`numeral`** — the shortest run of ASCII digits for a number.
* **`readNumeral`** — reads a run of digits, unless there are more than `maxDigits` of them.
-/

namespace MailFilters.Text

/-- The zero of each script that has decimal digits; its nine other digits follow it. -/
def zeroDigits : List Nat :=
  [0x30, 0x660, 0x6F0, 0x7C0, 0x966, 0x9E6, 0xA66, 0xAE6, 0xB66, 0xBE6, 0xC66, 0xCE6, 0xD66,
   0xDE6, 0xE50, 0xED0, 0xF20, 0x1040, 0x1090, 0x17E0, 0x1810, 0x1946, 0x19D0, 0x1A80, 0x1A90,
   0x1B50, 0x1BB0, 0x1C40, 0x1C50, 0xA620, 0xA8D0, 0xA900, 0xA9D0, 0xA9F0, 0xAA50, 0xABF0,
   0xFF10, 0x104A0, 0x10D30, 0x11066, 0x110F0, 0x11136, 0x111D0, 0x112F0, 0x11450, 0x114D0,
   0x11650, 0x116C0, 0x11730, 0x118E0, 0x11950, 0x11C50, 0x11D50, 0x11DA0, 0x16A60, 0x16AC0,
   0x16B50, 0x1D7CE, 0x1D7D8, 0x1D7E2, 0x1D7EC, 0x1D7F6, 0x1E140, 0x1E2F0, 0x1E950, 0x1FBF0]

/-- The value of a decimal digit of any script. -/
def digitValue? (c : Char) : Option Nat :=
  (zeroDigits.find? fun start => start ≤ c.toNat && c.toNat < start + 10).map (c.toNat - ·)

/-- Whether a character is a decimal digit of some script. -/
def isDigit (c : Char) : Bool := (digitValue? c).isSome

/-- Whether a character is one of `0` to `9`. -/
def isAsciiDigit (c : Char) : Bool := '0' ≤ c && c ≤ '9'

/-- Whether a character is one of `a` to `z` and `A` to `Z`. -/
def isAsciiLetter (c : Char) : Bool := ('a' ≤ c && c ≤ 'z') || ('A' ≤ c && c ≤ 'Z')

/-- The number that a run of decimal digits writes. -/
def decimalValue (digits : List Char) : Nat :=
  digits.foldl (fun value c => 10 * value + (digitValue? c).getD 0) 0

/-- The ASCII digit with a value below ten. -/
def digitChar (value : Nat) : Char := Char.ofNat (0x30 + value)

/-- The shortest run of ASCII digits for a number. -/
def numeral (n : Nat) : List Char :=
  if n < 10 then [digitChar n] else numeral (n / 10) ++ [digitChar (n % 10)]

/-- A number in decimal. -/
def decimal (n : Nat) : String := String.ofList (numeral n)

/-- A whole number in decimal, with a sign when it is negative. -/
def signedDecimal : Int → String
  | .ofNat n => decimal n
  | .negSucc n => "-" ++ decimal (n + 1)

/-- A number in decimal, with zeros in front of it up to a width. -/
def paddedDecimal (width n : Nat) : String :=
  let digits := numeral n
  String.ofList (List.replicate (width - digits.length) '0' ++ digits)

/-- The greatest number of digits that a numeral may have, leading zeros counted. -/
def maxDigits : Nat := 4300

/-- The number that a run of digits writes, or how many digits it has if that is too many. -/
def readNumeral (digits : List Char) : Except Nat Nat :=
  if digits.length ≤ maxDigits then .ok (decimalValue digits) else .error digits.length

/-- The value of a hexadecimal digit. -/
def hexValue? (c : Char) : Option Nat :=
  if isAsciiDigit c then some (c.toNat - 0x30)
  else if 'a' ≤ c && c ≤ 'f' then some (c.toNat - 0x57)
  else if 'A' ≤ c && c ≤ 'F' then some (c.toNat - 0x37)
  else none

/-- The lower case hexadecimal digit with a value below sixteen. -/
def hexChar (value : Nat) : Char :=
  if value < 10 then Char.ofNat (0x30 + value) else Char.ofNat (0x57 + value)

/-- The last `width` hexadecimal digits of a number, zeros in front included. -/
def hexDigits : Nat → Nat → List Char
  | 0, _ => []
  | width + 1, n => hexDigits width (n / 16) ++ [hexChar (n % 16)]

end MailFilters.Text
