/-!
# Binary64 — double-precision numbers in exact arithmetic

A finite double is its three fields; what it stands for is a whole number
of *units*, the unit being the least positive double `2 ^ -1074`. Every
operation is the exact one on units followed by one rounding
(`Binary64.ofRatio`), so nothing here rests on the machine's floating
point and every law reduces to one about integers. The comparison of
doubles (`Binary64.compare?`) is the comparison of their units; the order
that tells the zeros apart is that of their ranks (`Finite64.rank`).
-/

namespace DocumentStore

/-- A finite double, by its three fields: the exponent field stops short
of the value kept for infinities and NaN. -/
structure Finite64 where
  negative : Bool
  exponent : Fin 2047
  fraction : Fin 4503599627370496
  deriving DecidableEq, Repr

/-- A double: finite, infinite or not a number. -/
inductive Binary64 where
  | nan
  | infinite (negative : Bool)
  | finite (x : Finite64)
  deriving DecidableEq, Repr

namespace Finite64

/-- The number one, in units. -/
def one : Nat := Nat.pow 2 1074

/-- The first magnitude, in units, past every finite double. -/
def beyond : Nat := Nat.pow 2 2098

/-- The zero of a sign. -/
def zero (negative : Bool) : Finite64 := ⟨negative, 0, 0⟩

/-- Distance, in units, to the next magnitude. -/
def spacing (x : Finite64) : Nat := Nat.pow 2 (x.exponent.val - 1)

/-- Absolute value, in units. -/
def magnitude (x : Finite64) : Nat :=
  if x.exponent.val = 0 then x.fraction.val
  else (4503599627370496 + x.fraction.val) * x.spacing

/-- The number of units the double stands for. Both zeros stand for none. -/
def units (x : Finite64) : Int :=
  if x.negative then -(x.magnitude : Int) else x.magnitude

/-- A key that orders doubles by value and puts `-0` right below `0`. -/
def rank (x : Finite64) : Int :=
  if x.negative then 2 * x.units else 2 * x.units + 1

/-- Whether the double has no fractional part. -/
def isIntegral (x : Finite64) : Bool := x.magnitude % one = 0

/-- The integer part, toward zero. -/
def truncate (x : Finite64) : Int :=
  if x.negative then -((x.magnitude / one : Nat) : Int) else (x.magnitude / one : Nat)

end Finite64

/-- The whole number nearest to `num / den`; a half goes to the even one. -/
def roundHalfEven (num den : Nat) : Nat :=
  let quotient := num / den
  let remainder := num % den
  if 2 * remainder < den then quotient
  else if den < 2 * remainder then quotient + 1
  else quotient + quotient % 2

namespace Binary64

/-- The finite double whose exponent and fraction fields, read as one
number, are `encoded`; past the last of them, the infinity. Consecutive
doubles have consecutive encodings. -/
def ofEncoded (negative : Bool) (encoded : Nat) : Binary64 :=
  if h : encoded < 2047 * 4503599627370496 then
    .finite {
      negative
      exponent := ⟨encoded / 4503599627370496, by omega⟩
      fraction := ⟨encoded % 4503599627370496, by omega⟩ }
  else .infinite negative

/-- **Rounding.** The double nearest to `± num / den` units, a half going
to the even significand: the significand keeps 53 bits, and a carry out of
it moves on to the next exponent by itself. -/
def ofRatio (negative : Bool) (num den : Nat) : Binary64 :=
  let dropped := Nat.log2 (num / den) - 52
  ofEncoded negative
    (dropped * 4503599627370496 + roundHalfEven num (den * Nat.pow 2 dropped))

/-- The double nearest to an integer. -/
def ofInt (n : Int) : Binary64 := ofRatio (n < 0) (n.natAbs * Finite64.one) 1

/-- The double nearest to `± significand * 10 ^ exponent`. An exponent so
large or so small that the answer is settled is never expanded. -/
def ofDecimal (negative : Bool) (significand : Nat) : Int → Binary64
  | .ofNat e =>
    if significand = 0 then .finite (.zero negative)
    else if 400 < e then .infinite negative
    else ofRatio negative (significand * Nat.pow 10 e * Finite64.one) 1
  | .negSucc e =>
    if 400 + Nat.log2 significand < e then .finite (.zero negative)
    else ofRatio negative (significand * Finite64.one) (Nat.pow 10 (e + 1))

/-- Units, an infinity standing just past the finite range. -/
def units? : Binary64 → Option Int
  | .nan => none
  | .infinite negative => some (if negative then -(Finite64.beyond : Int) else Finite64.beyond)
  | .finite x => some x.units

/-- Numeric comparison, undefined as soon as one side is not a number. -/
def compare? (a b : Binary64) : Option Ordering :=
  match a.units?, b.units? with
  | some x, some y => some (compare x y)
  | _, _ => none

/-- Numeric equality: both zeros are equal, NaN equals nothing. -/
def equal (a b : Binary64) : Bool := a.compare? b == some .eq

/-- The sum, rounded; opposite infinities have none. -/
def add : Binary64 → Binary64 → Binary64
  | .nan, _ => .nan
  | _, .nan => .nan
  | .infinite s, .infinite t => if s = t then .infinite s else .nan
  | .infinite s, .finite _ => .infinite s
  | .finite _, .infinite t => .infinite t
  | .finite x, .finite y =>
    let sum := x.units + y.units
    if sum = 0 then .finite (.zero (x.negative && y.negative))
    else ofRatio (sum < 0) sum.natAbs 1

/-- The product, rounded; zero and infinity have none. -/
def mul : Binary64 → Binary64 → Binary64
  | .nan, _ => .nan
  | _, .nan => .nan
  | .infinite s, .infinite t => .infinite (s != t)
  | .infinite s, .finite y => if y.magnitude = 0 then .nan else .infinite (s != y.negative)
  | .finite x, .infinite t => if x.magnitude = 0 then .nan else .infinite (x.negative != t)
  | .finite x, .finite y =>
    ofRatio (x.negative != y.negative) (x.magnitude * y.magnitude) Finite64.one

/-- The quotient of a finite double by a positive one, in one rounding. -/
def divFinite (x y : Finite64) : Binary64 :=
  ofRatio (x.negative != y.negative) (x.magnitude * Finite64.one) y.magnitude

/-- The 64-bit pattern: sign, exponent field, fraction field. NaN has the
one pattern whose fraction is a single leading bit. -/
def toBits : Binary64 → Nat
  | .nan => 0x7FF8000000000000
  | .infinite negative => 0x8000000000000000 * negative.toNat + 0x7FF0000000000000
  | .finite x => 0x8000000000000000 * x.negative.toNat + x.exponent * 4503599627370496 + x.fraction

/-- The double of a 64-bit pattern; every pattern past the infinity is
NaN. -/
def ofBits (bits : Nat) : Binary64 :=
  let encoded := bits % 0x8000000000000000
  if 0x7FF0000000000000 < encoded then .nan
  else ofEncoded (0x8000000000000000 ≤ bits % 0x10000000000000000) encoded

/-- A pattern carries its finite double whole. -/
theorem ofBits_toBits_finite (x : Finite64) :
    ofBits (toBits (.finite x)) = .finite x := by
  obtain ⟨negative, ⟨e, he⟩, ⟨f, hf⟩⟩ := x
  have hlow : (0x8000000000000000 * negative.toNat + e * 4503599627370496 + f)
      % 0x8000000000000000 = e * 4503599627370496 + f := by
    cases negative <;> simp <;> omega
  have hsign : decide (0x8000000000000000 ≤
      (0x8000000000000000 * negative.toNat + e * 4503599627370496 + f)
        % 0x10000000000000000) = negative := by
    cases negative <;> simp <;> omega
  simp only [toBits, ofBits, hlow, ofEncoded]
  rw [if_neg (by omega), dif_pos (by omega)]
  congr <;> omega

/-- Whatever can be compared with itself is found equal. -/
theorem compare?_self (a : Binary64) : a.compare? a = a.units?.map fun _ => .eq := by
  unfold compare?
  cases a.units? with
  | none => rfl
  | some n => exact congrArg some Std.ReflCmp.compare_self

/-- A number is equal to itself; only NaN is not. -/
theorem equal_self_iff (a : Binary64) : a.equal a = true ↔ a ≠ .nan := by
  rw [equal, compare?_self]
  cases a with
  | nan => exact ⟨(nomatch ·), fun h => absurd rfl h⟩
  | infinite _ => exact ⟨fun _ => (nomatch ·), fun _ => rfl⟩
  | finite _ => exact ⟨fun _ => (nomatch ·), fun _ => rfl⟩

end Binary64

end DocumentStore
