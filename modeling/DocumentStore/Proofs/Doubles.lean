import DocumentStore.Value.Order

/-!
# Doubles in order

The exponent and fraction fields of a finite double, read as one number
(`Finite64.encoded`), order the magnitudes: consecutive numbers are consecutive
magnitudes, also where the exponent changes (`Finite64.magnitude_lt_iff`).
Hence the ranks of doubles are ordered as their bit patterns are when the sign
is read as that of the rest (`Binary64.compare_rank`), infinities and NaN
included. No two doubles have one rank (`Binary64.rank_inj`).
-/

namespace DocumentStore

/-- Integers compare as others do that are in the same order. -/
theorem compare_congr {i j k l : Int} (hlt : i < j ↔ k < l) (hgt : j < i ↔ l < k) :
    compare i j = compare k l := by
  rcases Int.lt_trichotomy i j with h | h | h
  · rw [Int.compare_eq_lt.2 h, Int.compare_eq_lt.2 (hlt.1 h)]
  · rw [Int.compare_eq_eq.2 h, Int.compare_eq_eq.2 (by omega)]
  · rw [Int.compare_eq_gt.2 h, Int.compare_eq_gt.2 (hgt.1 h)]

namespace Finite64

variable {x y : Finite64}

/-- The exponent and fraction fields, read as one number. -/
def encoded (x : Finite64) : Nat := x.exponent * 4503599627370496 + x.fraction

theorem encoded_lt (x : Finite64) : x.encoded < 0x7FF0000000000000 := by
  have he := x.exponent.isLt
  have hf := x.fraction.isLt
  unfold encoded
  omega

/-! ## Magnitudes -/

theorem spacing_pos (x : Finite64) : 0 < x.spacing := Nat.pow_pos Nat.zero_lt_two

/-- A significand has 53 binary digits. -/
theorem magnitude_lt (x : Finite64) : x.magnitude < 9007199254740992 * x.spacing := by
  have hf := x.fraction.isLt
  have hpos := x.spacing_pos
  unfold magnitude
  split
  · omega
  · exact Nat.mul_lt_mul_of_pos_right (by omega) hpos

/-- Above the least exponent the first digit of a significand is one. -/
theorem le_magnitude (h : x.exponent.val ≠ 0) : 4503599627370496 * x.spacing ≤ x.magnitude := by
  rw [magnitude, if_neg h]
  exact Nat.mul_le_mul_right _ (Nat.le_add_right _ _)

/-- A greater exponent makes a greater magnitude: the spacing doubles from one
exponent to the next, but for the first step, at which it is the leading digit
that is added. -/
theorem magnitude_lt_of_exponent_lt (h : x.exponent.val < y.exponent.val) :
    x.magnitude < y.magnitude := by
  refine Nat.lt_of_lt_of_le ?_ (le_magnitude (Nat.ne_of_gt (Nat.zero_lt_of_lt h)))
  by_cases hzero : x.exponent.val = 0
  · -- a subnormal is below every significand that has its leading digit
    have hf := x.fraction.isLt
    have hpos := y.spacing_pos
    rw [magnitude, if_pos hzero]
    omega
  · have hdouble : 2 * x.spacing ≤ y.spacing := by
      have hle : x.exponent.val - 1 + 1 ≤ y.exponent.val - 1 := by omega
      have hpow := Nat.pow_le_pow_right Nat.zero_lt_two hle
      rw [Nat.pow_succ'] at hpow
      exact hpow
    have hx := x.magnitude_lt
    omega

theorem magnitude_lt_iff_of_exponent_eq (h : x.exponent = y.exponent) :
    x.magnitude < y.magnitude ↔ x.fraction.val < y.fraction.val := by
  unfold magnitude spacing
  rw [h]
  split
  · exact Iff.rfl
  · exact (Nat.mul_lt_mul_right (Nat.pow_pos Nat.zero_lt_two)).trans Nat.add_lt_add_iff_left

/-- **Magnitudes are ordered as the fields are.** -/
theorem magnitude_lt_iff : x.magnitude < y.magnitude ↔ x.encoded < y.encoded := by
  have hx := x.fraction.isLt
  have hy := y.fraction.isLt
  rcases Nat.lt_trichotomy x.exponent.val y.exponent.val with h | h | h
  · refine iff_of_true (magnitude_lt_of_exponent_lt h) ?_
    unfold encoded
    omega
  · rw [magnitude_lt_iff_of_exponent_eq (Fin.ext h), encoded, encoded, h]
    omega
  · refine iff_of_false (Nat.lt_asymm (magnitude_lt_of_exponent_lt h)) ?_
    unfold encoded
    omega

theorem magnitude_lt_pow {k : Nat} (h : x.exponent.val - 1 + 53 ≤ k) :
    x.magnitude < Nat.pow 2 k := by
  refine Nat.lt_of_lt_of_le x.magnitude_lt ?_
  calc 9007199254740992 * x.spacing
    _ = Nat.pow 2 (x.exponent.val - 1 + 53) := by
      rw [Nat.mul_comm]
      exact (Nat.pow_add 2 _ 53).symm
    _ ≤ Nat.pow 2 k := Nat.pow_le_pow_right Nat.zero_lt_two h

/-- Every finite double is past none of the infinities. -/
theorem magnitude_lt_beyond (x : Finite64) : x.magnitude < beyond := by
  -- the exponent stays a variable, for the power is not to be expanded
  have h : ∀ k, k = 2098 → x.magnitude < Nat.pow 2 k := fun k hk =>
    magnitude_lt_pow (by have := x.exponent.isLt; omega)
  unfold beyond
  exact h 2098 rfl

end Finite64

namespace Binary64

variable {a b : Binary64}

/-! ## Ranks and bit patterns -/

/-- The bit pattern as a whole number: of the patterns with the sign set the
greatest first, right below zero. -/
def signedBits (a : Binary64) : Int :=
  if a.toBits < 0x8000000000000000 then a.toBits else 0x7FFFFFFFFFFFFFFF - a.toBits

/-- A pattern carries its double whole. -/
theorem ofBits_toBits (a : Binary64) : ofBits a.toBits = a := by
  cases a with
  | nan => rfl
  | infinite negative => cases negative <;> rfl
  | finite x => exact ofBits_toBits_finite x

theorem signedBits_nan : signedBits .nan = 0x7FF8000000000000 := rfl

theorem signedBits_infinite (negative : Bool) : signedBits (.infinite negative) =
    if negative then -1 - 0x7FF0000000000000 else 0x7FF0000000000000 := by
  cases negative <;> rfl

theorem signedBits_finite (x : Finite64) : signedBits (.finite x) =
    if x.negative then -1 - (x.encoded : Int) else x.encoded := by
  have hlt := x.encoded_lt
  unfold Finite64.encoded at hlt ⊢
  cases hneg : x.negative with
  | false =>
    rw [signedBits, toBits, hneg, if_pos (by rw [Bool.toNat_false]; omega)]
    simp
  | true =>
    rw [signedBits, toBits, hneg, if_neg (by rw [Bool.toNat_true]; omega), Bool.toNat_true,
      if_pos rfl]
    omega

theorem rank_nan : rank .nan = 2 * Finite64.beyond + 2 := rfl

theorem rank_infinite (negative : Bool) : rank (.infinite negative) =
    if negative then -(2 * Finite64.beyond : Int) else 2 * Finite64.beyond + 1 := by
  cases negative <;> rfl

theorem rank_finite (x : Finite64) : rank (.finite x) =
    if x.negative then -(2 * (x.magnitude : Int)) else 2 * x.magnitude + 1 := by
  rw [rank, Finite64.rank, Finite64.units]
  split
  · omega
  · rfl

/-- The ranks of finite doubles lie between those of the infinities. -/
theorem rank_finite_bounds (x : Finite64) : -(2 * (Finite64.beyond : Int)) < rank (.finite x) ∧
    rank (.finite x) < 2 * Finite64.beyond + 1 := by
  have hlt := x.magnitude_lt_beyond
  rw [rank_finite]
  split <;> omega

/-- So do their bit patterns. -/
theorem signedBits_finite_bounds (x : Finite64) :
    -1 - 0x7FF0000000000000 < signedBits (.finite x) ∧
      signedBits (.finite x) < 0x7FF0000000000000 := by
  have hlt := x.encoded_lt
  rw [signedBits_finite]
  split <;> omega

theorem rank_finite_lt_iff (x y : Finite64) :
    rank (.finite x) < rank (.finite y) ↔ signedBits (.finite x) < signedBits (.finite y) := by
  have hxy := Finite64.magnitude_lt_iff (x := x) (y := y)
  have hyx := Finite64.magnitude_lt_iff (x := y) (y := x)
  rw [rank_finite, rank_finite, signedBits_finite, signedBits_finite]
  split <;> split <;> omega

/-- **Ranks are ordered as bit patterns are.** -/
theorem rank_lt_iff : a.rank < b.rank ↔ a.signedBits < b.signedBits := by
  cases a with
  | nan =>
    rw [rank_nan, signedBits_nan]
    cases b with
    | nan => exact iff_of_false (Int.lt_irrefl _) (Int.lt_irrefl _)
    | infinite t =>
      rw [rank_infinite, signedBits_infinite]
      split <;> omega
    | finite y =>
      have hrank := rank_finite_bounds y
      have hbits := signedBits_finite_bounds y
      omega
  | infinite s =>
    rw [rank_infinite, signedBits_infinite]
    cases b with
    | nan =>
      rw [rank_nan, signedBits_nan]
      split <;> omega
    | infinite t =>
      rw [rank_infinite, signedBits_infinite]
      split <;> split <;> omega
    | finite y =>
      have hrank := rank_finite_bounds y
      have hbits := signedBits_finite_bounds y
      split <;> omega
  | finite x =>
    have hrank := rank_finite_bounds x
    have hbits := signedBits_finite_bounds x
    cases b with
    | nan =>
      rw [rank_nan, signedBits_nan]
      omega
    | infinite t =>
      rw [rank_infinite, signedBits_infinite]
      split <;> omega
    | finite y => exact rank_finite_lt_iff x y

theorem rank_eq_iff : a.rank = b.rank ↔ a.signedBits = b.signedBits := by
  have hab : a.rank < b.rank ↔ a.signedBits < b.signedBits := rank_lt_iff
  have hba : b.rank < a.rank ↔ b.signedBits < a.signedBits := rank_lt_iff
  omega

/-- **The comparison of ranks is that of bit patterns.** -/
theorem compare_rank (a b : Binary64) :
    compare a.rank b.rank = compare a.signedBits b.signedBits :=
  compare_congr rank_lt_iff rank_lt_iff

/-- A bit pattern is that of one double. -/
theorem eq_of_signedBits_eq (h : a.signedBits = b.signedBits) : a = b := by
  have hbits : a.toBits = b.toBits := by
    unfold signedBits at h
    split at h <;> split at h <;> omega
  rw [← ofBits_toBits a, hbits, ofBits_toBits]

/-- **No two doubles have one rank**, the zeros included. -/
theorem rank_inj : a.rank = b.rank ↔ a = b :=
  ⟨fun h => eq_of_signedBits_eq (rank_eq_iff.1 h), congrArg rank⟩

end Binary64

end DocumentStore
