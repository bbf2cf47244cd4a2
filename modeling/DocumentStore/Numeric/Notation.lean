import DocumentStore.Numeric.Shortest

/-!
# Notation — the two written forms of a double

A double is written in one of two forms. The *exact* form, of data, always
shows that it is no integer: it has a point or an exponent, and turns to
the exponent outside a window of magnitudes. The *plain* form, of running
text, never has an exponent, and a whole number is written as one.
-/

namespace DocumentStore

namespace Decimal

/-- Positional text, without a point if the value is whole. -/
def positional (d : Decimal) : List Char :=
  let ds := decimalDigits d.digits
  match d.exponent with
  | .ofNat zeros => ds ++ List.replicate zeros '0'
  | .negSucc places =>
    let places := places + 1
    if places < ds.length then
      ds.take (ds.length - places) ++ '.' :: ds.drop (ds.length - places)
    else '0' :: '.' :: List.replicate (places - ds.length) '0' ++ ds

/-- Positional text that shows a point even if the value is whole. -/
def positionalWithPoint (d : Decimal) : List Char :=
  if d.exponent < 0 then d.positional else d.positional ++ ['.', '0']

/-- Scientific text: one digit, the others behind a point if there are
any, and the exponent with its sign. -/
def scientific (d : Decimal) : List Char :=
  let sign := if d.leading < 0 then '-' else '+'
  let mantissa := match decimalDigits d.digits with
    | first :: [] => [first]
    | first :: others => first :: '.' :: others
    | [] => []
  mantissa ++ 'e' :: sign :: decimalDigits d.leading.natAbs

end Decimal

namespace Finite64

/-- Puts the sign of a double before the text of its absolute value. -/
def signed (x : Finite64) (text : List Char) : List Char :=
  if x.negative then '-' :: text else text

/-- The form of data: digits that read back, a half going to the even
digit; positional from `10 ^ -5` up to below `10 ^ 16`, else scientific. -/
def exactText (x : Finite64) : List Char :=
  let d := x.shortest .even
  x.signed (if -5 ≤ d.leading ∧ d.leading ≤ 15 then d.positionalWithPoint
    else d.scientific)

/-- The form of running text: below `10 ^ 21` a whole number is written
with all its digits; anything else with the fewest digits that read back,
a half going up. -/
def plainText (x : Finite64) : List Char :=
  x.signed
    (if x.isIntegral ∧ x.magnitude < 1000000000000000000000 * one then
      decimalDigits (x.magnitude / one)
    else (x.shortest .larger).positional)

end Finite64

/-- Running text of any double. -/
def Binary64.plainText : Binary64 → List Char
  | .nan => ['N', 'a', 'N']
  | .infinite negative => (if negative then ['-'] else []) ++ "Infinity".toList
  | .finite x => x.plainText

/-- The decimal text of an integer. -/
def integerText (n : Int) : List Char :=
  if n < 0 then '-' :: decimalDigits n.natAbs else decimalDigits n.natAbs

end DocumentStore
