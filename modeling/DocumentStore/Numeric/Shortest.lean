import DocumentStore.Numeric.Binary64

/-!
# Shortest decimals

The decimal a double is written with: the fewest digits that still lie in
the interval of reals rounding to that double, and of those the nearest to
it. The search walks the grids of one digit, two digits and so on up to
seventeen, where some point always lies inside, and tests on each the two
neighbours of the double. Which of two equally near points is taken is a
choice of the format and so a parameter (`Tie`).
-/

namespace DocumentStore

/-- A positive decimal, `digits * 10 ^ exponent`. -/
structure Decimal where
  digits : Nat
  exponent : Int
  deriving DecidableEq, Repr

/-- Which of two equally near decimals is taken. -/
inductive Tie where
  | larger
  | even
  deriving DecidableEq, Repr

/-- What is added to the lower of two equally near neighbours. -/
def Tie.carry : Tie → Nat → Nat
  | .larger, _ => 1
  | .even, below => below % 2

/-- The decimal digits of a number, most significant first. -/
def decimalDigits (n : Nat) : List Char := Nat.toDigits 10 n

/-- How many decimal digits a number has; zero has none. -/
def digitCount (n : Nat) : Nat := if n = 0 then 0 else (decimalDigits n).length

namespace Decimal

/-- The same decimal without trailing zeros, given a bound on their
number. -/
def trim : Nat → Decimal → Decimal
  | 0, d => d
  | bound + 1, d =>
    if d.digits % 10 = 0 ∧ d.digits ≠ 0 then trim bound ⟨d.digits / 10, d.exponent + 1⟩
    else d

/-- The exponent of the leading digit: the value is `d.ddd * 10 ^ leading`. -/
def leading (d : Decimal) : Int := d.exponent + digitCount d.digits - 1

end Decimal

namespace Finite64

/-- The reals that round to a double, in quarters of a unit: the double in
the middle, the two halfway points, and whether these round to it too. -/
structure Neighbourhood where
  centre : Nat
  low : Nat
  high : Nat
  closed : Bool

/-- Below a power of two the doubles lie twice as close as above it. -/
def neighbourhood (x : Finite64) : Neighbourhood where
  centre := 4 * x.magnitude
  low := 4 * x.magnitude
    - (if x.fraction.val = 0 ∧ 1 < x.exponent.val then x.spacing else 2 * x.spacing)
  high := 4 * x.magnitude + 2 * x.spacing
  closed := x.fraction.val % 2 = 0

/-- The exponent of the leading digit of `num / den`, both positive. -/
def leadingExponent (num den : Nat) : Int :=
  if den ≤ num then (digitCount (num / den) : Int) - 1 else -(digitCount ((den - 1) / num) : Int)

/-- The best point of the grid of step `10 ^ exponent` in the
neighbourhood, if the grid has one there. -/
def Neighbourhood.onGrid? (n : Neighbourhood) (tie : Tie) (exponent : Int) : Option Decimal :=
  let scale := Nat.pow 10 (-exponent).toNat
  let step := 4 * one * Nat.pow 10 exponent.toNat
  let inside (point : Nat) : Bool :=
    if n.closed then n.low * scale ≤ point * step && point * step ≤ n.high * scale
    else n.low * scale < point * step && point * step < n.high * scale
  let below := n.centre * scale / step
  match inside below, inside (below + 1) with
  | false, false => none
  | true, false => some ⟨below, exponent⟩
  | false, true => some ⟨below + 1, exponent⟩
  | true, true =>
    match compare (2 * (n.centre * scale)) ((2 * below + 1) * step) with
    | .lt => some ⟨below, exponent⟩
    | .gt => some ⟨below + 1, exponent⟩
    | .eq => some ⟨below + tie.carry below, exponent⟩

/-- The first grid with a point in the neighbourhood, from the given step
down through `finer` finer ones. -/
def Neighbourhood.firstGrid (n : Neighbourhood) (tie : Tie) : Nat → Int → Decimal
  | 0, exponent => (n.onGrid? tie exponent).getD ⟨0, 0⟩
  | finer + 1, exponent =>
    match n.onGrid? tie exponent with
    | some d => d
    | none => n.firstGrid tie finer (exponent - 1)

/-- **The shortest decimal** of a double's absolute value; zero is `0`. -/
def shortest (x : Finite64) (tie : Tie) : Decimal :=
  if x.magnitude = 0 then ⟨0, 0⟩
  else
    let n := x.neighbourhood
    (n.firstGrid tie 16 (leadingExponent n.centre (4 * one))).trim 17

end Finite64

end DocumentStore
