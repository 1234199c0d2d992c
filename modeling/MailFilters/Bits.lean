/-!
# Bits of whole numbers

A negative number is read as an infinite two's complement word, so that `-1` has every bit set.

* **`bitAnd`** — the bits that two numbers share.
* **`bitClear`** — the bits of the first number that the second one lacks.
* **`bitCount`** — how many bits of the absolute value are set.
-/

namespace MailFilters

/-- The bits of `a` that `b` lacks, for natural numbers. -/
def natBitClear (a b : Nat) : Nat := a ^^^ (a &&& b)

/-- The bits that two whole numbers share. -/
def bitAnd : Int → Int → Int
  | .ofNat a, .ofNat b => .ofNat (a &&& b)
  | .ofNat a, .negSucc b => .ofNat (natBitClear a b)
  | .negSucc a, .ofNat b => .ofNat (natBitClear b a)
  | .negSucc a, .negSucc b => .negSucc (a ||| b)

/-- The whole number with all bits turned over. -/
def bitNot : Int → Int
  | .ofNat a => .negSucc a
  | .negSucc a => .ofNat a

/-- The bits of `a` that `b` lacks. -/
def bitClear (a b : Int) : Int := bitAnd a (bitNot b)

/-- How many bits of a natural number are set. -/
def natBitCount (n : Nat) : Nat := if n = 0 then 0 else n % 2 + natBitCount (n / 2)

/-- How many bits of the absolute value of a whole number are set. -/
def bitCount (n : Int) : Nat := natBitCount n.natAbs

end MailFilters
