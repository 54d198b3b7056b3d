/-! # Decimal numbers

Numbers are written without leading zeros, except in zero itself. They are read from any
number of digits; the bounded readers refuse a value out of range, so a literal that is too large
is refused however many digits it has, and leading zeros do no harm. -/

namespace CardMachine.Text

/-- The digits of a number. -/
def decimal (n : Nat) : List Char := Nat.toDigits 10 n

/-- A number with a sign, which is `+` for zero. -/
def signedDecimal (i : Int) : List Char := (if i < 0 then '-' else '+') :: decimal i.natAbs

/-- The value of a list of digits. -/
def decimalValue (digits : List Char) : Nat := Nat.ofDigitChars 10 digits 0

/-- The value as a 32-bit word, if it fits. -/
def word32? (n : Nat) : Option UInt32 := if n < UInt32.size then some (.ofNat n) else none

/-- The value as a 64-bit word, if it fits. -/
def word64? (n : Nat) : Option UInt64 := if n < UInt64.size then some (.ofNat n) else none

/-- The value as a signed 64-bit word, if it fits. -/
def signed64? (i : Int) : Option Int64 :=
  if Int64.minValue.toInt ≤ i ∧ i ≤ Int64.maxValue.toInt then some (.ofInt i) else none

end CardMachine.Text
