/-
# Decimal numerals

Numbers are written without superfluous zeros. A numeral of any length is read as a 64-bit word; one
that is too long for a word gives the greatest word, as the specification asks (section 4.1). A
signed word is written with a minus sign when it is negative, and is never read.

Reading goes digit by digit and cuts off at each one (`appendDigit`), so the numbers on the way stay
small, however long the run is. `digitsValue` is the value of the same digits without a cut, for
statements only. That cutting off at every digit is cutting off once at the end, that every word is
read back from its numeral, and which runs of digits are numerals is proved in
`Proofs/Text/Numeral.lean`.
-/
namespace DiceRoller.Text

/-! ## 1. Writing -/

/-- The decimal numeral of a word. -/
def numeral (n : UInt64) : String := n.toNat.repr

/-- The decimal numeral of a signed word, with a minus sign when it is negative. -/
def signedNumeral (n : Int64) : String :=
  if n.toInt < 0 then "-" ++ n.toInt.natAbs.repr else n.toInt.natAbs.repr

/-! ## 2. Reading -/

/-- The value of a run of digits, however long. -/
def digitsValue (ds : List Char) : Nat := Nat.ofDigitChars 10 ds 0

/-- The word after one more digit, or the greatest word. -/
def appendDigit (n : UInt64) (d : Char) : UInt64 :=
  UInt64.ofNatClamp (10 * n.toNat + (d.toNat - '0'.toNat))

/-- The value of a run of digits, or the greatest word. -/
def saturated (ds : List Char) : UInt64 := ds.foldl appendDigit 0

end DiceRoller.Text
