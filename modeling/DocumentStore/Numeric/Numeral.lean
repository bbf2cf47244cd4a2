import DocumentStore.Numeric.Binary64

/-!
# Numerals — numbers as text writes them

A numeral is an optional sign, digits with an optional point and at least
one digit, and an optional exponent. It is read into the exact decimal it
denotes (`Numeral.read?`); the double is one rounding away
(`Numeral.value`). Hexadecimal digits are read by `hexValue?`.
-/

namespace DocumentStore

/-- `± significand * 10 ^ exponent`. -/
structure Numeral where
  negative : Bool
  significand : Nat
  exponent : Int
  deriving DecidableEq, Repr

/-- The number a run of decimal digits denotes, continuing from `acc`. -/
def digitsValue (digits : List Char) (acc : Nat) : Nat :=
  digits.foldl (fun n c => 10 * n + (c.toNat - '0'.toNat)) acc

/-- A non-empty run of decimal digits and nothing else. -/
def isDigits (text : List Char) : Bool := !text.isEmpty && text.all Char.isDigit

/-- The value of a hexadecimal digit, of either case. -/
def hexDigit? (c : Char) : Option Nat :=
  if '0' ≤ c ∧ c ≤ '9' then some (c.toNat - '0'.toNat)
  else if 'a' ≤ c ∧ c ≤ 'f' then some (c.toNat - 'a'.toNat + 10)
  else if 'A' ≤ c ∧ c ≤ 'F' then some (c.toNat - 'A'.toNat + 10)
  else none

/-- The number a run of hexadecimal digits denotes, if it is one and it is
not empty. -/
def hexValue? (text : List Char) : Option Nat :=
  if text.isEmpty then none
  else text.foldlM (fun n c => (hexDigit? c).map (16 * n + ·)) 0

/-- Splits off a leading sign. -/
def splitSign : List Char → Bool × List Char
  | '-' :: rest => (true, rest)
  | '+' :: rest => (false, rest)
  | text => (false, text)

namespace Numeral

/-- The exponent at the end of a numeral; no text is exponent zero. -/
def exponentPart? : List Char → Option Int
  | [] => some 0
  | mark :: rest =>
    let (negative, digits) := splitSign rest
    if (mark = 'e' ∨ mark = 'E') ∧ isDigits digits then
      some (if negative then -(digitsValue digits 0 : Int) else digitsValue digits 0)
    else none

/-- Splits text after its leading digits. -/
def splitDigits (text : List Char) : List Char × List Char :=
  (text.takeWhile Char.isDigit, text.dropWhile Char.isDigit)

/-- Splits off the digits behind a leading point. -/
def splitFraction : List Char → List Char × List Char
  | '.' :: rest => splitDigits rest
  | text => ([], text)

/-- Reads a whole text as a numeral. -/
def read? (text : List Char) : Option Numeral :=
  let (negative, body) := splitSign text
  let (whole, rest) := splitDigits body
  let (fraction, rest) := splitFraction rest
  if whole.isEmpty && fraction.isEmpty then none
  else (exponentPart? rest).map fun exponent => {
    negative
    significand := digitsValue fraction (digitsValue whole 0)
    exponent := exponent - fraction.length }

/-- The double nearest to a numeral. -/
def value (n : Numeral) : Binary64 := .ofDecimal n.negative n.significand n.exponent

end Numeral

end DocumentStore
