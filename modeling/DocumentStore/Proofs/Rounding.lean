import DocumentStore.Proofs.Doubles
import Mathlib.Data.Nat.Dist

/-!
# Rounding — the double that stands for a number

A ratio of units is rounded to a significand of 53 binary digits and the number
of digits that lie below it (`Binary64.rounded`). This is the magnitude of the
double, wherever it is finite (`Binary64.magnitude_ofRatio`), and no double is
nearer (`Binary64.ofRatio_nearest`).

Of an integer the same is left, counted in ones and not in units, for the digits
that are dropped do not depend on where the count starts
(`Binary64.rounded_mul_pow`). This is `nearest`, a monotone function that leaves
integers of at most 53 digits as they are.
-/

namespace DocumentStore

variable {a b c k n num den : Nat} {negative : Bool}

/-! ## Halves to the even number -/

/-- A rounded quotient is the quotient or the next number, according to which
half the remainder is in. -/
theorem roundHalfEven_cases (num den : Nat) :
    roundHalfEven num den = num / den ∧ 2 * (num % den) ≤ den ∨
      roundHalfEven num den = num / den + 1 ∧ den ≤ 2 * (num % den) := by
  unfold roundHalfEven
  dsimp only
  split
  · exact .inl ⟨rfl, by omega⟩
  · split
    · exact .inr ⟨rfl, by omega⟩
    · rcases Nat.mod_two_eq_zero_or_one (num / den) with h | h <;> rw [h]
      · exact .inl ⟨rfl, by omega⟩
      · exact .inr ⟨rfl, by omega⟩

/-- **No multiple is nearer.** -/
theorem roundHalfEven_nearest (hden : 0 < den) (num k : Nat) :
    Nat.dist num (roundHalfEven num den * den) ≤ Nat.dist num (k * den) := by
  have hdiv := Nat.div_add_mod' num den
  have hlt := Nat.mod_lt num hden
  -- a multiple is no more than the quotient's, or no less than the next
  have hside : k * den ≤ num / den * den ∨ num / den * den + den ≤ k * den := by
    rcases Nat.lt_or_ge (num / den) k with h | h
    · exact .inr (Nat.succ_mul _ den ▸ Nat.mul_le_mul_right den h)
    · exact .inl (Nat.mul_le_mul_right den h)
  unfold Nat.dist
  rcases roundHalfEven_cases num den with ⟨hround, hhalf⟩ | ⟨hround, hhalf⟩ <;> rw [hround]
  · omega
  · rw [Nat.succ_mul]
    omega

theorem roundHalfEven_mono (h : a ≤ b) (den : Nat) :
    roundHalfEven a den ≤ roundHalfEven b den := by
  have ha := Nat.div_add_mod a den
  have hb := Nat.div_add_mod b den
  rcases Nat.lt_or_eq_of_le (Nat.div_le_div_right h (c := den)) with hquotient | hquotient
  · have hcases := roundHalfEven_cases a den
    have hcases' := roundHalfEven_cases b den
    omega
  · have hremainder : a % den ≤ b % den := by
      rw [hquotient] at ha
      omega
    unfold roundHalfEven
    rw [hquotient]
    dsimp only
    split <;> split <;> (try split) <;> (try split) <;> omega

theorem roundHalfEven_mul_right (hc : 0 < c) (num den : Nat) :
    roundHalfEven (num * c) (den * c) = roundHalfEven num den := by
  have hbelow : 2 * (num % den * c) < den * c ↔ 2 * (num % den) < den := by
    rw [← Nat.mul_assoc]
    exact Nat.mul_lt_mul_right hc
  have habove : den * c < 2 * (num % den * c) ↔ den < 2 * (num % den) := by
    rw [← Nat.mul_assoc]
    exact Nat.mul_lt_mul_right hc
  unfold roundHalfEven
  rw [Nat.mul_div_mul_right _ _ hc, Nat.mul_mod_mul_right]
  simp only [hbelow, habove]

theorem roundHalfEven_mul_self (hden : 0 < den) (k : Nat) : roundHalfEven (k * den) den = k := by
  unfold roundHalfEven
  rw [Nat.mul_div_cancel _ hden, Nat.mul_mod_left]
  dsimp only
  rw [if_pos (by omega)]

namespace Finite64

/-- One is a power of two in units; the exponent stays a variable where the power
is not to be expanded. -/
theorem exists_one_eq : ∃ k, one = Nat.pow 2 k ∧ k < 1075 :=
  ⟨1074, by unfold one; rfl, by decide⟩

theorem one_pos : 0 < one := by
  obtain ⟨k, hone, -⟩ := exists_one_eq
  rw [hone]
  exact Nat.pow_pos Nat.zero_lt_two

end Finite64

namespace Binary64

/-! ## Fifty-three binary digits -/

/-- How many binary digits of a ratio lie below the 53 that are kept. -/
def dropped (num den : Nat) : Nat := Nat.log2 (num / den) - 52

/-- The digits that are kept. -/
def significand (num den : Nat) : Nat := roundHalfEven num (den * Nat.pow 2 (dropped num den))

/-- **A ratio rounded** to 53 binary digits. -/
def rounded (num den : Nat) : Nat := significand num den * Nat.pow 2 (dropped num den)

theorem two_pow_pos (k : Nat) : 0 < Nat.pow 2 k := Nat.pow_pos Nat.zero_lt_two

theorem two_pow_add (m n : Nat) : Nat.pow 2 (m + n) = Nat.pow 2 m * Nat.pow 2 n := Nat.pow_add 2 m n

/-- The whole part of what is kept has 53 digits, or fewer if none are dropped. -/
theorem div_bounds (num den : Nat) :
    num / (den * Nat.pow 2 (dropped num den)) < 9007199254740992 ∧
      (dropped num den ≠ 0 → 4503599627370496 ≤ num / (den * Nat.pow 2 (dropped num den))) := by
  have hpos := two_pow_pos (dropped num den)
  rw [← Nat.div_div_eq_div_mul]
  unfold dropped at hpos ⊢
  generalize num / den = q at hpos ⊢
  have hlt : q < Nat.pow 2 (53 + (q.log2 - 52)) :=
    Nat.lt_of_lt_of_le Nat.lt_log2_self (Nat.pow_le_pow_right Nat.zero_lt_two (by omega))
  rw [two_pow_add] at hlt
  refine ⟨(Nat.div_lt_iff_lt_mul hpos).2 hlt, fun hdropped => ?_⟩
  have hq : q ≠ 0 := by
    rintro rfl
    exact hdropped rfl
  have hle : Nat.pow 2 (52 + (q.log2 - 52)) ≤ q := by
    have hexponent : 52 + (q.log2 - 52) = q.log2 := by omega
    rw [hexponent]
    exact Nat.log2_self_le hq
  rw [two_pow_add] at hle
  exact (Nat.le_div_iff_mul_le hpos).2 hle

/-- And so has what it is rounded to, or it is the next power of two. -/
theorem significand_bounds (num den : Nat) : significand num den ≤ 9007199254740992 ∧
    (dropped num den ≠ 0 → 4503599627370496 ≤ significand num den) := by
  have hbounds := div_bounds num den
  have hcases := roundHalfEven_cases num (den * Nat.pow 2 (dropped num den))
  unfold significand
  omega

/-! ## The double of a ratio -/

/-- The fields of a double, read as one number, hold the digits that are kept
behind the number of those that are not. -/
theorem magnitude_of_encoded {x : Finite64} {s d : Nat}
    (hencoded : x.encoded = d * 4503599627370496 + s) (hs : s ≤ 9007199254740992)
    (hd : d ≠ 0 → 4503599627370496 ≤ s) :
    x.magnitude = s * Nat.pow 2 d := by
  have hf := x.fraction.isLt
  unfold Finite64.encoded at hencoded
  unfold Finite64.magnitude Finite64.spacing
  split
  · -- without an exponent nothing is dropped, and the leading digit is not kept
    have hd0 : d = 0 := by
      by_contra hne
      have := hd hne
      omega
    subst hd0
    change _ = s * 1
    omega
  · next he =>
    by_cases hcarry : s = 9007199254740992
    · -- a carry out of the significand moves on to the next exponent
      have hexponent : x.exponent.val - 1 = 1 + d := by omega
      have hfraction : x.fraction.val = 0 := by omega
      rw [hexponent, hfraction, hcarry, two_pow_add, ← Nat.mul_assoc]
    · have hexponent : x.exponent.val - 1 = d := by omega
      have hfraction : 4503599627370496 + x.fraction.val = s := by omega
      rw [hexponent, hfraction]

theorem ofEncoded_eq_finite {x : Finite64} (h : ofEncoded negative n = .finite x) :
    x.negative = negative ∧ x.encoded = n := by
  unfold ofEncoded at h
  split at h
  · cases h
    exact ⟨rfl, Nat.div_add_mod' n 4503599627370496⟩
  · cases h

/-- **The double of a ratio has the rounded magnitude**, if it is finite. -/
theorem magnitude_ofRatio {x : Finite64} (h : ofRatio negative num den = .finite x) :
    x.negative = negative ∧ x.magnitude = rounded num den := by
  obtain ⟨hnegative, hencoded⟩ := ofEncoded_eq_finite h
  obtain ⟨hle, hge⟩ := significand_bounds num den
  exact ⟨hnegative, magnitude_of_encoded hencoded hle hge⟩

/-- It is finite wherever few enough digits are dropped. -/
theorem exists_ofRatio_eq (negative : Bool) (h : dropped num den < 2045) :
    ∃ x, ofRatio negative num den = .finite x := by
  have hs := (significand_bounds num den).1
  have hlt : dropped num den * 4503599627370496 + significand num den <
      2047 * 4503599627370496 := by omega
  exact ⟨_, dif_pos hlt⟩

/-- Every magnitude is a multiple of the spacing, or is below all that have 53
digits. -/
theorem magnitude_grid (x : Finite64) (d : Nat) :
    (∃ k, x.magnitude = k * Nat.pow 2 d) ∨
      d ≠ 0 ∧ x.magnitude < 4503599627370496 * Nat.pow 2 d := by
  rcases Nat.lt_or_ge (x.exponent.val - 1) d with h | h
  · refine .inr ⟨by omega, Nat.lt_of_lt_of_le (Finite64.magnitude_lt_pow (Nat.le_refl _)) ?_⟩
    calc Nat.pow 2 (x.exponent.val - 1 + 53)
      _ ≤ Nat.pow 2 (52 + d) := Nat.pow_le_pow_right Nat.zero_lt_two (by omega)
      _ = 4503599627370496 * Nat.pow 2 d := two_pow_add 52 d
  · left
    have hspacing : x.spacing = Nat.pow 2 (x.exponent.val - 1 - d) * Nat.pow 2 d := by
      rw [← two_pow_add, Nat.sub_add_cancel h, Finite64.spacing]
    unfold Finite64.magnitude
    split
    · next hzero =>
      have hd : d = 0 := by omega
      subst hd
      exact ⟨_, (Nat.mul_one _).symm⟩
    · rw [hspacing, ← Nat.mul_assoc]
      exact ⟨_, rfl⟩

/-- **No double is nearer** to a ratio than the one it is rounded to. -/
theorem ofRatio_nearest {x : Finite64} (hden : 0 < den)
    (h : ofRatio negative num den = .finite x) (y : Finite64) :
    Nat.dist num (x.magnitude * den) ≤ Nat.dist num (y.magnitude * den) := by
  have hpos : 0 < den * Nat.pow 2 (dropped num den) := Nat.mul_pos hden (two_pow_pos _)
  have hnearest := roundHalfEven_nearest hpos num
  have hx : x.magnitude * den = significand num den * (den * Nat.pow 2 (dropped num den)) := by
    rw [(magnitude_ofRatio h).2, rounded, Nat.mul_assoc, Nat.mul_comm _ den]
  rw [hx]
  rcases magnitude_grid y (dropped num den) with ⟨k, hk⟩ | ⟨hdropped, hlt⟩
  · have hy : y.magnitude * den = k * (den * Nat.pow 2 (dropped num den)) := by
      rw [hk, Nat.mul_assoc, Nat.mul_comm _ den]
    rw [hy]
    exact hnearest k
  · -- below the least number of 53 digits every double is farther away than that number
    have hle : 4503599627370496 * (den * Nat.pow 2 (dropped num den)) ≤ num :=
      (Nat.le_div_iff_mul_le hpos).1 ((div_bounds num den).2 hdropped)
    have hleast := hnearest 4503599627370496
    have hbelow : y.magnitude * den < 4503599627370496 * (den * Nat.pow 2 (dropped num den)) := by
      rw [Nat.mul_comm den, ← Nat.mul_assoc]
      exact Nat.mul_lt_mul_of_pos_right hlt hden
    unfold significand Nat.dist at *
    omega

theorem ofRatio_mul_right (hc : 0 < c) (negative : Bool) (num den : Nat) :
    ofRatio negative (num * c) (den * c) = ofRatio negative num den := by
  unfold ofRatio
  dsimp only
  rw [Nat.mul_div_mul_right _ _ hc, Nat.mul_right_comm den c, roundHalfEven_mul_right hc]

/-! ## Whole numbers -/

/-- A number that ends in the digits that are dropped, all zero, is its own
rounding. -/
theorem rounded_eq_self (h : ∃ k, n = k * Nat.pow 2 (dropped n 1)) : rounded n 1 = n := by
  obtain ⟨k, hk⟩ := h
  unfold rounded significand
  rw [Nat.one_mul]
  generalize Nat.pow 2 (dropped n 1) = p at hk ⊢
  subst hk
  rcases Nat.eq_zero_or_pos p with rfl | hp
  · rfl
  · rw [roundHalfEven_mul_self hp]

/-- Of a number of at most 53 digits nothing is lost. -/
theorem rounded_of_le (h : n ≤ 9007199254740992) : rounded n 1 = n := by
  refine rounded_eq_self ?_
  rcases Nat.lt_or_eq_of_le h with hlt | rfl
  · have hdropped : dropped n 1 = 0 := by
      have hlog : n ≠ 0 → n.log2 < 53 := fun hn => (Nat.log2_lt hn).2 hlt
      rcases Nat.eq_zero_or_pos n with rfl | hpos
      · rfl
      · have := hlog (Nat.ne_of_gt hpos)
        rw [dropped, Nat.div_one]
        omega
    exact ⟨n, hdropped ▸ (Nat.mul_one n).symm⟩
  · exact ⟨4503599627370496, by decide⟩

theorem rounded_zero : rounded 0 1 = 0 := rounded_of_le (Nat.zero_le _)

theorem log2_mul_pow (hn : n ≠ 0) (k : Nat) : (n * Nat.pow 2 k).log2 = n.log2 + k := by
  have hne : n * Nat.pow 2 k ≠ 0 := Nat.mul_ne_zero hn (Nat.ne_of_gt (two_pow_pos k))
  refine (Nat.log2_eq_iff hne).2 ⟨?_, ?_⟩
  · rw [Nat.pow_add]
    exact Nat.mul_le_mul_right _ (Nat.log2_self_le hn)
  · rw [Nat.add_right_comm, Nat.pow_add]
    exact Nat.mul_lt_mul_of_pos_right Nat.lt_log2_self (two_pow_pos k)

/-- **Rounding does not depend on where the count starts.** -/
theorem rounded_mul_pow (n k : Nat) : rounded (n * Nat.pow 2 k) 1 = rounded n 1 * Nat.pow 2 k := by
  rcases Nat.eq_zero_or_pos n with rfl | hpos
  · rw [Nat.zero_mul, rounded_zero, Nat.zero_mul]
  have hlog := log2_mul_pow (Nat.ne_of_gt hpos) k
  by_cases h : 52 ≤ n.log2
  · -- the same digits are kept, and as many more are dropped as there are zeros at the end
    have hdropped : dropped (n * Nat.pow 2 k) 1 = dropped n 1 + k := by
      rw [dropped, dropped, Nat.div_one, Nat.div_one, hlog]
      omega
    unfold rounded significand
    rw [hdropped, two_pow_add, Nat.one_mul, Nat.one_mul, roundHalfEven_mul_right (two_pow_pos k),
      Nat.mul_assoc]
  · -- nothing is lost of the number, and of the zeros behind it only some are dropped
    have hle : n ≤ 9007199254740992 := by
      have hlt : n < Nat.pow 2 53 := (Nat.log2_lt (Nat.ne_of_gt hpos)).1 (by omega)
      exact Nat.le_of_lt hlt
    have hdropped : dropped (n * Nat.pow 2 k) 1 ≤ k := by
      rw [dropped, Nat.div_one, hlog]
      omega
    rw [rounded_of_le hle]
    refine rounded_eq_self ⟨n * Nat.pow 2 (k - dropped (n * Nat.pow 2 k) 1), ?_⟩
    rw [Nat.mul_assoc, ← two_pow_add, Nat.sub_add_cancel hdropped]

theorem dropped_mono (h : a ≤ b) : dropped a 1 ≤ dropped b 1 := by
  rw [dropped, dropped, Nat.div_one, Nat.div_one]
  rcases Nat.eq_zero_or_pos a with rfl | hpos
  · exact Nat.zero_le _
  · have ha : a ≠ 0 := Nat.ne_of_gt hpos
    have hle : a.log2 ≤ b.log2 :=
      (Nat.le_log2 (by omega)).2 (Nat.le_trans (Nat.log2_self_le ha) h)
    omega

/-- **Rounding keeps the order.** -/
theorem rounded_mono (h : a ≤ b) : rounded a 1 ≤ rounded b 1 := by
  rcases Nat.lt_or_eq_of_le (dropped_mono h) with hlt | heq
  · -- with fewer digits dropped a number is below all that have 53 digits and more dropped
    calc rounded a 1
      _ ≤ 9007199254740992 * Nat.pow 2 (dropped a 1) :=
        Nat.mul_le_mul_right _ (significand_bounds a 1).1
      _ = 4503599627370496 * Nat.pow 2 (1 + dropped a 1) := by
        rw [two_pow_add, ← Nat.mul_assoc]
      _ ≤ 4503599627370496 * Nat.pow 2 (dropped b 1) :=
        Nat.mul_le_mul_left _ (Nat.pow_le_pow_right Nat.zero_lt_two (by omega))
      _ ≤ rounded b 1 := Nat.mul_le_mul_right _ ((significand_bounds b 1).2 (by omega))
  · unfold rounded significand
    rw [heq]
    exact Nat.mul_le_mul_right _ (roundHalfEven_mono h _)

/-- Whole numbers, not too large, are rounded as their units are. -/
theorem exists_ofRatio_pow (negative : Bool) (h : n.log2 + k < 2097) :
    ∃ x, ofRatio negative (n * Nat.pow 2 k) 1 = .finite x ∧ x.negative = negative ∧
      x.magnitude = rounded n 1 * Nat.pow 2 k := by
  have hdropped : dropped (n * Nat.pow 2 k) 1 < 2045 := by
    rw [dropped, Nat.div_one]
    rcases Nat.eq_zero_or_pos n with rfl | hpos
    · rw [Nat.zero_mul]
      decide
    · rw [log2_mul_pow (Nat.ne_of_gt hpos)]
      omega
  obtain ⟨x, hx⟩ := exists_ofRatio_eq negative hdropped
  obtain ⟨hnegative, hmagnitude⟩ := magnitude_ofRatio hx
  exact ⟨x, hx, hnegative, hmagnitude.trans (rounded_mul_pow n k)⟩

theorem exists_ofRatio_one (negative : Bool) (h : n.log2 < 1000) :
    ∃ x, ofRatio negative (n * Finite64.one) 1 = .finite x ∧ x.negative = negative ∧
      x.magnitude = rounded n 1 * Finite64.one := by
  obtain ⟨k, hone, hk⟩ := Finite64.exists_one_eq
  rw [hone]
  exact exists_ofRatio_pow negative (by omega)

end Binary64

/-! ## Integers -/

/-- **What is left of an integer in a double**: the nearest integer of 53 binary
digits, a half going to the even one. -/
def nearest (n : Int) : Int :=
  if n < 0 then -(Binary64.rounded n.natAbs 1 : Int) else Binary64.rounded n.natAbs 1

variable {i j : Int}

theorem nearest_of_nonneg (h : 0 ≤ i) : nearest i = Binary64.rounded i.natAbs 1 :=
  if_neg (by omega)

theorem nearest_of_nonpos (h : i ≤ 0) : nearest i = -(Binary64.rounded i.natAbs 1 : Int) := by
  rcases Int.lt_or_eq_of_le h with hlt | rfl
  · exact if_pos hlt
  · rw [nearest_of_nonneg (Int.le_refl 0), Int.natAbs_zero, Binary64.rounded_zero]
    rfl

theorem natAbs_nearest (i : Int) : (nearest i).natAbs = Binary64.rounded i.natAbs 1 := by
  unfold nearest
  split <;> omega

/-- **Small integers are left as they are.** -/
theorem nearest_of_le (h : i.natAbs ≤ 9007199254740992) : nearest i = i := by
  unfold nearest
  rw [Binary64.rounded_of_le h]
  split <;> omega

/-- Others do not become small. -/
theorem natAbs_nearest_le_iff :
    (nearest i).natAbs ≤ 9007199254740991 ↔ i.natAbs ≤ 9007199254740991 := by
  rw [natAbs_nearest]
  rcases Nat.lt_or_ge 9007199254740992 i.natAbs with h | h
  · have hmono := Binary64.rounded_mono (Nat.le_of_lt h)
    rw [Binary64.rounded_of_le (Nat.le_refl _)] at hmono
    omega
  · rw [Binary64.rounded_of_le h]

/-- **The order of integers is left**, but for some of them becoming equal. -/
theorem nearest_mono (h : i ≤ j) : nearest i ≤ nearest j := by
  rcases Int.le_total 0 i with hi | hi
  · have hle : i.natAbs ≤ j.natAbs := by omega
    have hrounded := Binary64.rounded_mono hle
    rw [nearest_of_nonneg hi, nearest_of_nonneg (by omega)]
    omega
  · rcases Int.le_total 0 j with hj | hj
    · rw [nearest_of_nonpos hi, nearest_of_nonneg hj]
      omega
    · have hle : j.natAbs ≤ i.natAbs := by omega
      have hrounded := Binary64.rounded_mono hle
      rw [nearest_of_nonpos hi, nearest_of_nonpos hj]
      omega

/-- What stays apart stays in order. -/
theorem nearest_lt_iff : nearest i < nearest j ↔ i < j ∧ nearest i ≠ nearest j := by
  rcases Int.lt_or_le i j with h | h
  · have hmono := nearest_mono (Int.le_of_lt h)
    omega
  · have hmono := nearest_mono h
    omega

/-- **An integer of less than 53 digits is told apart from every other.** -/
theorem nearest_ne (h : i.natAbs < 9007199254740992) (hne : i ≠ j) : nearest i ≠ nearest j := by
  rw [nearest_of_le (Nat.le_of_lt h)]
  -- the neighbours of the one are left as they are too, and the other is past one of them
  rcases Int.lt_or_gt_of_ne hne with hlt | hgt
  · have hnext := nearest_of_le (i := i + 1) (by omega)
    have hmono := nearest_mono (show i + 1 ≤ j by omega)
    omega
  · have hprevious := nearest_of_le (i := i - 1) (by omega)
    have hmono := nearest_mono (show j ≤ i - 1 by omega)
    omega

end DocumentStore
