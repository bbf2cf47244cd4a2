import DocumentStore.Patch
import DocumentStore.Proofs.Rounding

/-!
# Integers — what calculating with doubles leaves of them

The double of an integer of 64 bits stands for the nearest integer of 53 binary
digits (`WideInt.exists_double`), and so does the sum or product of two doubles
that stand for integers (`Arithmetic.exists_onBinary64`). A double that stands
for an integer is turned back into it while it is small (`Rendered`).

Addition and multiplication of integers are exact where both fit in 64 bits with
a sign. Where one does not, they are those of doubles, and exact just if the
roundings of the operands cancel out and the result is small
(`Arithmetic.integers_stay_exact_iff`).
-/

namespace DocumentStore

/-! ## Doubles that stand for integers -/

namespace Finite64

variable {x y : Finite64} {i j : Int}

/-- No double is nearer to an integer. -/
def IsNearest (x : Finite64) (i : Int) : Prop :=
  ∀ y : Finite64, (i * one - x.units).natAbs ≤ (i * one - y.units).natAbs

theorem mul_one_neg_iff : i * (one : Int) < 0 ↔ i < 0 := by
  have hpos : (0 : Int) < one := Int.natCast_pos.2 one_pos
  exact ⟨fun h => Int.neg_of_mul_neg_left h hpos,
    fun h => Int.mul_neg_of_neg_of_pos h hpos⟩

theorem natAbs_units (x : Finite64) : x.units.natAbs = x.magnitude := by
  unfold units
  split <;> omega

theorem magnitude_of_units (h : x.units = i * one) : x.magnitude = i.natAbs * one := by
  rw [← natAbs_units, h, Int.natAbs_mul, Int.natAbs_natCast]

/-- The sign of a double that stands for an integer is that of the integer, but
for zero. -/
theorem negative_of_units (h : x.units = i * one) (hi : i ≠ 0) : x.negative = decide (i < 0) := by
  have hpos : 0 < x.magnitude := by
    rw [magnitude_of_units h]
    exact Nat.mul_pos (Int.natAbs_pos.2 hi) one_pos
  rw [Bool.eq_iff_iff, decide_eq_true_iff, ← mul_one_neg_iff, ← h]
  unfold units
  split
  · next hneg => exact iff_of_true hneg (by omega)
  · next hneg => exact iff_of_false hneg (by omega)

theorem units_of_magnitude (hmagnitude : x.magnitude = i.natAbs * one)
    (hnegative : i ≠ 0 → x.negative = decide (i < 0)) : x.units = i * one := by
  unfold units
  rw [hmagnitude]
  rcases eq_or_ne i 0 with rfl | hi
  · rw [Int.natAbs_zero, Nat.zero_mul, Int.zero_mul]
    split <;> rfl
  · rw [hnegative hi]
    rcases Int.lt_or_gt_of_ne hi with hlt | hgt
    · rw [if_pos (by simpa using hlt), Int.natCast_mul, Int.ofNat_natAbs_of_nonpos (by omega),
        Int.neg_mul, Int.neg_neg]
    · rw [if_neg (by simpa using Int.le_of_lt hgt), Int.natCast_mul,
        Int.natAbs_of_nonneg (by omega)]

/-- A double that stands for an integer has no fractional part. -/
theorem isIntegral_of_units (h : x.units = i * one) : x.isIntegral = true := by
  unfold isIntegral
  rw [magnitude_of_units h, Nat.mul_mod_left]
  rfl

/-- And its integer part is the integer. -/
theorem truncate_of_units (h : x.units = i * one) : x.truncate = i := by
  unfold truncate
  rw [magnitude_of_units h, Nat.mul_div_cancel _ one_pos]
  rcases eq_or_ne i 0 with rfl | hi
  · split <;> rfl
  · rw [negative_of_units h hi]
    rcases Int.lt_or_gt_of_ne hi with hlt | hgt
    · rw [if_pos (by simpa using hlt)]
      omega
    · rw [if_neg (by simpa using Int.le_of_lt hgt)]
      omega

/-- The nearest integer has the sign of the integer. -/
theorem units_of_rounded (hmagnitude : x.magnitude = Binary64.rounded i.natAbs 1 * one)
    (hnegative : i ≠ 0 → x.negative = decide (i < 0)) : x.units = nearest i * one := by
  refine units_of_magnitude (by rw [hmagnitude, natAbs_nearest]) fun hne => ?_
  have hi : i ≠ 0 := by
    rintro rfl
    exact hne (nearest_of_le (by decide))
  rw [hnegative hi, decide_eq_decide]
  unfold nearest at hne ⊢
  split at hne <;> split <;> omega

end Finite64

namespace Binary64

variable {x y : Finite64} {i j : Int}

/-- **The double of an integer**, not too large, stands for the nearest of 53
digits. -/
theorem exists_ofInt (h : i.natAbs.log2 < 1000) :
    ∃ x, ofInt i = .finite x ∧ x.negative = decide (i < 0) ∧
      x.units = nearest i * Finite64.one := by
  obtain ⟨x, hx, hnegative, hmagnitude⟩ := exists_ofRatio_one (decide (i < 0)) h
  exact ⟨x, hx, hnegative, Finite64.units_of_rounded hmagnitude fun _ => hnegative⟩

/-- **No double is nearer** to an integer than the one it is rounded to. -/
theorem isNearest_ofInt (h : ofInt i = .finite x) : x.IsNearest i := by
  intro y
  have hnearest := ofRatio_nearest Nat.one_pos h y
  have hnegative := (magnitude_ofRatio h).1
  have hunits : (i * Finite64.one).natAbs = i.natAbs * Finite64.one := by
    rw [Int.natAbs_mul, Int.natAbs_natCast]
  have hsign : i * (Finite64.one : Int) < 0 ↔ i < 0 := Finite64.mul_one_neg_iff
  rw [← hunits, Nat.mul_one, Nat.mul_one] at hnearest
  unfold Nat.dist at hnearest
  unfold Finite64.units
  rw [hnegative]
  generalize i * (Finite64.one : Int) = units at *
  simp only [decide_eq_true_iff, ← hsign]
  -- a double of the other sign is farther away than its absolute value
  split <;> split <;> omega

/-- **The sum of doubles** that stand for integers. -/
theorem exists_add (hx : x.units = i * Finite64.one) (hy : y.units = j * Finite64.one)
    (h : (i + j).natAbs.log2 < 1000) :
    ∃ z, add (.finite x) (.finite y) = .finite z ∧ z.units = nearest (i + j) * Finite64.one := by
  have hpos : (0 : Int) < Finite64.one := Int.natCast_pos.2 Finite64.one_pos
  have hsum : x.units + y.units = (i + j) * Finite64.one := by rw [hx, hy, Int.add_mul]
  unfold add
  dsimp only
  rw [hsum]
  split
  · next hzero =>
    have hij : i + j = 0 := (Int.mul_eq_zero.1 hzero).resolve_right (Int.ne_of_gt hpos)
    refine ⟨_, rfl, Finite64.units_of_rounded ?_ fun hne => absurd hij hne⟩
    rw [hij, Int.natAbs_zero, rounded_zero, Nat.zero_mul]
    rfl
  · rw [Int.natAbs_mul, Int.natAbs_natCast]
    obtain ⟨z, hz, hsign, hmagnitude⟩ :=
      exists_ofRatio_one (decide ((i + j) * Finite64.one < 0)) h
    refine ⟨z, hz, Finite64.units_of_rounded hmagnitude fun _ => ?_⟩
    rw [hsign, decide_eq_decide]
    exact Finite64.mul_one_neg_iff

/-- **The product of doubles** that stand for integers. -/
theorem exists_mul (hx : x.units = i * Finite64.one) (hy : y.units = j * Finite64.one)
    (h : (i * j).natAbs.log2 < 1000) :
    ∃ z, mul (.finite x) (.finite y) = .finite z ∧ z.units = nearest (i * j) * Finite64.one := by
  -- the unit of the product is counted once too often, and taken out again
  have hproduct (negative : Bool) :
      ofRatio negative (x.magnitude * y.magnitude) Finite64.one =
        ofRatio negative ((i * j).natAbs * Finite64.one) 1 := by
    have hmagnitudes : x.magnitude * y.magnitude =
        (i * j).natAbs * Finite64.one * Finite64.one := by
      rw [Finite64.magnitude_of_units hx, Finite64.magnitude_of_units hy, Int.natAbs_mul,
        Nat.mul_mul_mul_comm, Nat.mul_assoc _ Finite64.one]
    have hcancel := ofRatio_mul_right Finite64.one_pos negative ((i * j).natAbs * Finite64.one) 1
    rwa [Nat.one_mul, ← hmagnitudes] at hcancel
  obtain ⟨z, hz, hsign, hmagnitude⟩ := exists_ofRatio_one (x.negative != y.negative) h
  refine ⟨z, (hproduct _).trans hz, Finite64.units_of_rounded hmagnitude fun hne => ?_⟩
  have hi : i ≠ 0 := fun hzero => hne (by rw [hzero, Int.zero_mul])
  have hj : j ≠ 0 := fun hzero => hne (by rw [hzero, Int.mul_zero])
  rw [hsign, Finite64.negative_of_units hx hi, Finite64.negative_of_units hy hj]
  rw [Bool.eq_iff_iff, decide_eq_true_iff, Int.mul_neg_iff, bne_iff_ne, ne_eq, decide_eq_decide]
  omega

end Binary64

/-! ## Integers of 64 bits -/

/-- A bound that leaves room for the product of two integers of 64 bits. -/
theorem log2_lt_of_le {n : Nat} (h : n ≤ 340282366920938463463374607431768211456) :
    n.log2 < 1000 := by
  rcases Nat.eq_zero_or_pos n with rfl | hpos
  · decide
  · have hlt : n < 2 ^ 129 := by omega
    have := (Nat.log2_lt (Nat.ne_of_gt hpos)).2 hlt
    omega

namespace WideInt

theorem natAbs_le (n : WideInt) : n.val.natAbs ≤ 18446744073709551616 := by
  have hlower := n.lower
  have hupper := n.upper
  omega

theorem natAbs_nearest_le (n : WideInt) : (nearest n.val).natAbs ≤ 18446744073709551616 := by
  rw [natAbs_nearest]
  calc Binary64.rounded n.val.natAbs 1
    _ ≤ Binary64.rounded 18446744073709551616 1 := Binary64.rounded_mono n.natAbs_le
    _ = 18446744073709551616 := by decide

/-- **The double of an integer of 64 bits.** -/
theorem exists_double (n : WideInt) : ∃ x, Binary64.ofInt n.val = .finite x ∧
    x.negative = decide (n.val < 0) ∧ x.units = nearest n.val * Finite64.one := by
  have hle := n.natAbs_le
  exact Binary64.exists_ofInt (log2_lt_of_le (by omega))

end WideInt

/-- **Numbers of documents are finite.** -/
theorem Number.exists_double (n : Number) : ∃ x, n.toBinary64 = .finite x := by
  cases n with
  | integer n =>
    obtain ⟨x, hx, -⟩ := n.exists_double
    exact ⟨x, hx⟩
  | float x => exact ⟨x, rfl⟩

/-- What a double that stands for an integer is turned into: the integer while it is
small, or else a double that stands for the nearest one. -/
inductive Rendered (i : Int) : Value → Prop
  | integer {k : WideInt} (hval : k.val = i) (hsmall : i.natAbs ≤ 9007199254740991) :
      Rendered i (.number (.integer k))
  | float {z : Finite64} (hunits : z.units = nearest i * Finite64.one)
      (hlarge : 9007199254740991 < i.natAbs) : Rendered i (.number (.float z))

theorem Value.rendered_ofBinary64 {x : Finite64} {i : Int}
    (h : x.units = nearest i * Finite64.one) : Rendered i (.ofBinary64 (.finite x)) := by
  simp only [Value.ofBinary64, Finite64.isIntegral_of_units h, Finite64.truncate_of_units h,
    Bool.true_and, decide_eq_true_iff]
  split
  · next hsmall =>
    rw [natAbs_nearest_le_iff] at hsmall
    rw [nearest_of_le (by omega), Value.ofInt?, WideInt.ofInt?_val ⟨i, by omega, by omega⟩]
    exact .integer rfl hsmall
  · next hlarge =>
    rw [natAbs_nearest_le_iff] at hlarge
    exact .float h (Nat.lt_of_not_le hlarge)

theorem Rendered.eq_integer_iff {i : Int} {v : Value} {r : WideInt} (h : Rendered i v) :
    v = .number (.integer r) ↔ i = r.val ∧ r.val.natAbs ≤ 9007199254740991 := by
  cases h with
  | @integer k hval hsmall =>
    constructor
    · rintro ⟨⟩
      exact ⟨hval.symm, hval ▸ hsmall⟩
    · rintro ⟨hr, -⟩
      obtain ⟨_, _, _⟩ := k
      obtain ⟨_, _, _⟩ := r
      cases hval.trans hr
      rfl
  | float _ hlarge =>
    refine iff_of_false (fun h => nomatch h) ?_
    rintro ⟨rfl, hsmall⟩
    omega

theorem Rendered.exists_float {i : Int} {v : Value} (h : Rendered i v)
    (hlarge : 9007199254740991 < i.natAbs) : ∃ z, v = .number (.float z) := by
  cases h with
  | integer _ hsmall => omega
  | float _ _ => exact ⟨_, rfl⟩

namespace Arithmetic

/-- **Calculating with doubles**: the operation on the nearest integers, and the
nearest integer of the result. -/
theorem exists_onBinary64 (op : Arithmetic) (m n : WideInt) :
    ∃ z, op.onBinary64 (.ofInt m.val) (.ofInt n.val) = .finite z ∧
      z.units = nearest (op.onInt (nearest m.val) (nearest n.val)) * Finite64.one := by
  obtain ⟨x, hx, -, hxunits⟩ := m.exists_double
  obtain ⟨y, hy, -, hyunits⟩ := n.exists_double
  have hm := m.natAbs_nearest_le
  have hn := n.natAbs_nearest_le
  rw [hx, hy]
  cases op with
  | add => exact Binary64.exists_add hxunits hyunits (log2_lt_of_le (by omega))
  | mul =>
    refine Binary64.exists_mul hxunits hyunits (log2_lt_of_le ?_)
    rw [Int.natAbs_mul]
    exact Nat.mul_le_mul hm hn

/-! ## Exact results -/

/-- On integers that fit in 64 bits with a sign the operation is exact, if the
result does so too. -/
theorem apply_of_signed (op : Arithmetic) {m n r : WideInt} (h : m.isSigned ∧ n.isSigned)
    (hr : op.onInt m.val n.val = r.val) (hs : r.isSigned = true) :
    op.apply (some (.number (.integer m))) (.number (.integer n)) = .number (.integer r) := by
  unfold apply exactly?
  simp only [hr, WideInt.ofInt?_val, Option.bind_some, hs, h, Bool.and_self, if_true,
    Option.getD_some]

/-- Otherwise it is that on doubles. -/
theorem apply_of_not_signed (op : Arithmetic) {m n : WideInt} (h : ¬ (m.isSigned ∧ n.isSigned)) :
    op.apply (some (.number (.integer m))) (.number (.integer n)) =
      op.coerced (some (.number (.integer m))) (.number (.integer n)) := by
  unfold apply exactly?
  dsimp only
  rw [if_neg (by rwa [Bool.and_eq_true]), Option.getD_none]

theorem coerced_integers (op : Arithmetic) (m n : WideInt) :
    op.coerced (some (.number (.integer m))) (.number (.integer n)) =
      .ofBinary64 (op.onBinary64 (.ofInt m.val) (.ofInt n.val)) :=
  if_neg fun h => nomatch h.2

/-- **What the operation on doubles gives**: what it is on the nearest integers of
the operands. -/
theorem rendered_coerced (op : Arithmetic) (m n : WideInt) :
    Rendered (op.onInt (nearest m.val) (nearest n.val))
      (op.coerced (some (.number (.integer m))) (.number (.integer n))) := by
  obtain ⟨z, hz, hunits⟩ := op.exists_onBinary64 m n
  rw [coerced_integers, hz]
  exact Value.rendered_ofBinary64 hunits

/-- A factor that does not fit in 64 bits with a sign leaves a product that does
just with zero, or with minus one if it is the least such factor. -/
theorem eq_zero_of_mul_fits {i j : Int} (hi : 9223372036854775808 ≤ i)
    (hlower : -9223372036854775808 ≤ i * j) (hupper : i * j ≤ 9223372036854775807) :
    j = 0 ∨ i = 9223372036854775808 ∧ j = -1 := by
  have hnonneg : 0 ≤ i := by omega
  rcases Int.lt_trichotomy j 0 with hj | rfl | hj
  · right
    by_cases hone : j = -1
    · subst hone
      omega
    · have hle := Int.mul_le_mul_of_nonneg_left (show j ≤ -2 by omega) hnonneg
      omega
  · exact .inl rfl
  · have hle := Int.mul_le_mul_of_nonneg_left (show 1 ≤ j by omega) hnonneg
    omega

/-- The operands of the one product that fits and is not exact. -/
def Extreme (m n : WideInt) : Prop :=
  m.val = 9223372036854775808 ∧ n.val = -1 ∨ m.val = -1 ∧ n.val = 9223372036854775808

/-- Of all products that fit in 64 bits with a sign just one is not exact. -/
theorem mul_exact_iff {m n r : WideInt} (hr : m.val * n.val = r.val) (hs : r.isSigned = true) :
    (m.isSigned ∧ n.isSigned ∨
      nearest m.val * nearest n.val = r.val ∧ r.val.natAbs ≤ 9007199254740991) ↔
        ¬ Extreme m n := by
  have hlower := r.lower
  have hupper : r.val ≤ 9223372036854775807 := of_decide_eq_true hs
  have hzero : nearest 0 = 0 := nearest_of_le (by decide)
  unfold Extreme WideInt.isSigned
  simp only [decide_eq_true_iff]
  constructor
  · rintro h (⟨hm, hn⟩ | ⟨hm, hn⟩) <;> rw [hm, hn] at h hr <;> omega
  · intro hextreme
    by_cases hm : m.val ≤ 9223372036854775807
    · by_cases hn : n.val ≤ 9223372036854775807
      · exact .inl ⟨hm, hn⟩
      · have hcases := eq_zero_of_mul_fits (show _ ≤ n.val by omega)
          (Int.mul_comm m.val n.val ▸ hr ▸ hlower) (Int.mul_comm m.val n.val ▸ hr ▸ hupper)
        have hzero' : m.val = 0 := by omega
        rw [hzero', Int.zero_mul] at hr
        rw [hzero', hzero, Int.zero_mul]
        omega
    · have hcases := eq_zero_of_mul_fits (show _ ≤ m.val by omega) (hr ▸ hlower) (hr ▸ hupper)
      have hzero' : n.val = 0 := by omega
      rw [hzero', Int.mul_zero] at hr
      rw [hzero', hzero, Int.mul_zero]
      omega

/-- **When integers stay exact.** A sum or product of integers that fits in 64
bits with a sign is the result, as an integer, just if both operands fit so too,
or the roundings of the operands to doubles cancel out and the result has no more
than 53 digits. For a product this is always so but for one. Where an operand
does not fit the result is, in any case, that of the operands' doubles: an integer
if it is small, and a double if it is not (`Rendered`). -/
theorem integers_stay_exact_iff (op : Arithmetic) {m n r : WideInt}
    (hr : op.onInt m.val n.val = r.val) (hs : r.isSigned = true) :
    let result := op.apply (some (.number (.integer m))) (.number (.integer n))
    let rough := op.onInt (nearest m.val) (nearest n.val)
    (result = .number (.integer r) ↔
      m.isSigned ∧ n.isSigned ∨ rough = r.val ∧ r.val.natAbs ≤ 9007199254740991) ∧
    (op = .mul → (result = .number (.integer r) ↔ ¬ Extreme m n)) ∧
    (¬ (m.isSigned ∧ n.isSigned) → Rendered rough result) := by
  intro result rough
  have hexact : result = .number (.integer r) ↔
      m.isSigned ∧ n.isSigned ∨ rough = r.val ∧ r.val.natAbs ≤ 9007199254740991 := by
    by_cases hsigned : m.isSigned ∧ n.isSigned
    · exact iff_of_true (op.apply_of_signed hsigned hr hs) (.inl hsigned)
    · have hresult : result = _ := op.apply_of_not_signed hsigned
      rw [hresult, (op.rendered_coerced m n).eq_integer_iff]
      exact (or_iff_right hsigned).symm
  refine ⟨hexact, ?_, fun hsigned => ?_⟩
  · rintro rfl
    exact hexact.trans (mul_exact_iff hr hs)
  · have hresult : result = _ := op.apply_of_not_signed hsigned
    rw [hresult]
    exact op.rendered_coerced m n

/-- The least integer that does not fit in 64 bits with a sign. -/
def beyondSigned : WideInt := ⟨9223372036854775808, by decide, by decide⟩

/-- With its own negative it gives zero exactly, in spite of the doubles. -/
theorem integers_stay_exact_iff_cancelling :
    Arithmetic.add.onInt beyondSigned.val (-9223372036854775808) = 0 ∧
      Arithmetic.add.apply (some (.number (.integer beyondSigned)))
        (.number (.integer ⟨-9223372036854775808, by decide, by decide⟩)) =
          .number (.integer ⟨0, by decide, by decide⟩) := by
  have hsum : Arithmetic.add.onInt beyondSigned.val (-9223372036854775808) = 0 := by decide
  exact ⟨hsum, (integers_stay_exact_iff .add hsum rfl).1.2 (.inr (by decide))⟩

/-- **One less than it is a double**, and so is its negative, although both fit. -/
theorem not_exact_beyondSigned :
    let x : Value := .number (.integer beyondSigned)
    let minusOne : WideInt := ⟨-1, by decide, by decide⟩
    Arithmetic.add.onInt beyondSigned.val minusOne.val = 9223372036854775807 ∧
      Arithmetic.mul.onInt beyondSigned.val minusOne.val = -9223372036854775808 ∧
      ∀ op : Arithmetic, ∃ z, op.apply (some x) (.number (.integer minusOne)) =
        .number (.float z) := by
  intro x minusOne
  refine ⟨by decide, by decide, fun op => ?_⟩
  have hlarge : 9007199254740991 <
      (op.onInt (nearest beyondSigned.val) (nearest minusOne.val)).natAbs := by
    cases op <;> decide
  have hresult : op.apply (some x) (.number (.integer minusOne)) = _ :=
    op.apply_of_not_signed (by decide)
  rw [hresult]
  exact (op.rendered_coerced beyondSigned minusOne).exists_float hlarge

end Arithmetic

end DocumentStore
