import DocumentStore.Proofs.Integers
import DocumentStore.Value.Order

/-!
# Distinction — which integers comparisons tell apart

Equality, strict or loose, the relational comparison and the order of fields
compare numbers as doubles. Of an integer the double keeps the nearest integer of
53 binary digits, so that all four compare these (`Number.Represents.looseEq_eq`
and the lemmas beside it). Integers are compared by value just if they are not
taken to the same one (`comparedByValue_iff`), as they never are while one of
the two has no more than 53 digits; past that, not all neighbours are told apart.
-/

namespace DocumentStore

/-! ## Numbers that represent integers -/

/-- The double of a number stands for an integer, and is not the negative
zero. -/
def Number.Represents (q : Number) (i : Int) : Prop :=
  ∃ x : Finite64, q.toBinary64 = .finite x ∧ x.units = i * Finite64.one ∧
    (x.negative = true → i < 0)

namespace Finite64

variable {x y : Finite64} {i j : Int}

theorem compare_mul_one (i j : Int) : compare (i * (one : Int)) (j * one) = compare i j := by
  have hpos : (0 : Int) < one := Int.natCast_pos.2 one_pos
  exact compare_congr (Int.mul_lt_mul_right hpos) (Int.mul_lt_mul_right hpos)

/-- Units of nonnegative doubles are not negative, and of other doubles not
positive. -/
theorem units_sign (x : Finite64) :
    (x.negative = true → x.units ≤ 0) ∧ (x.negative = false → 0 ≤ x.units) := by
  unfold units
  cases x.negative <;> simp

theorem rank_eq_zero_iff : x.rank = 0 ↔ x = .zero true :=
  ⟨fun h => Binary64.finite.inj (Binary64.rank_inj.1 h), fun h => h ▸ rfl⟩

theorem rank_eq_one_iff : x.rank = 1 ↔ x = .zero false :=
  ⟨fun h => Binary64.finite.inj (Binary64.rank_inj.1 h), fun h => h ▸ rfl⟩

/-- No double but the zeros stands for nothing. -/
theorem eq_zero_of_units (h : x.units = 0) : x = .zero true ∨ x = .zero false := by
  rw [← rank_eq_zero_iff, ← rank_eq_one_iff, rank, h]
  cases x.negative with
  | true => exact .inl rfl
  | false => exact .inr rfl

/-- The total order is that of the values, but for the zeros. -/
theorem rank_lt_iff : x.rank < y.rank ↔
    x.units < y.units ∨ x = .zero true ∧ y = .zero false := by
  rw [← rank_eq_zero_iff, ← rank_eq_one_iff]
  have hx := x.units_sign
  have hy := y.units_sign
  unfold rank
  cases hxneg : x.negative <;> cases hyneg : y.negative <;>
    simp only [hxneg, hyneg, if_true, Bool.false_eq_true, if_false, forall_const] at * <;> omega

/-- Apart from the negative zero it is just that. -/
theorem rank_lt_iff_units (hx : x.negative = true → x.units < 0) (y : Finite64) :
    x.rank < y.rank ↔ x.units < y.units := by
  rw [rank_lt_iff, or_iff_left]
  rintro ⟨rfl, -⟩
  exact absurd (hx rfl) (by decide)

end Finite64

namespace Number.Represents

variable {p q : Number} {i j : Int}

theorem compare?_eq (hp : p.Represents i) (hq : q.Represents j) :
    p.toBinary64.compare? q.toBinary64 = some (compare i j) := by
  obtain ⟨x, hx, hxunits, -⟩ := hp
  obtain ⟨y, hy, hyunits, -⟩ := hq
  rw [hx, hy, ← Finite64.compare_mul_one, ← hxunits, ← hyunits]
  rfl

theorem equal_eq (hp : p.Represents i) (hq : q.Represents j) :
    p.toBinary64.equal q.toBinary64 = decide (i = j) := by
  rw [Binary64.equal, hp.compare?_eq hq, Bool.eq_iff_iff, beq_iff_eq, Option.some.injEq,
    Int.compare_eq_eq, decide_eq_true_iff]

/-- **Strict equality** is that of the integers represented. -/
theorem strictEq_eq (hp : p.Represents i) (hq : q.Represents j) :
    strictEq (some (.number p)) (.number q) = decide (i = j) := hp.equal_eq hq

/-- **Loose equality** is too. -/
theorem looseEq_eq (hp : p.Represents i) (hq : q.Represents j) :
    looseEq (some (.number p)) (some (.number q)) = decide (i = j) := hp.equal_eq hq

/-- **The relational comparison** is theirs. -/
theorem compareRelational?_eq (hp : p.Represents i) (hq : q.Represents j) :
    compareRelational? (some (.number p)) (.number q) = some (compare i j) := hp.compare?_eq hq

/-- **The order of fields** is theirs. -/
theorem compareFields_eq (hp : p.Represents i) (hq : q.Represents j) :
    compareFields (some (.number p)) (some (.number q)) = compare i j := by
  obtain ⟨x, hx, hxunits, hxneg⟩ := hp
  obtain ⟨y, hy, hyunits, hyneg⟩ := hq
  have hxneg' : x.negative = true → x.units < 0 := fun h => by
    rw [hxunits]
    exact Finite64.mul_one_neg_iff.2 (hxneg h)
  have hyneg' : y.negative = true → y.units < 0 := fun h => by
    rw [hyunits]
    exact Finite64.mul_one_neg_iff.2 (hyneg h)
  have hranks : compare x.rank y.rank = compare x.units y.units :=
    compare_congr (Finite64.rank_lt_iff_units hxneg' y) (Finite64.rank_lt_iff_units hyneg' x)
  calc compareFields (some (.number p)) (some (.number q))
    _ = compare p.toBinary64.rank q.toBinary64.rank := rfl
    _ = compare x.rank y.rank := by rw [hx, hy, Binary64.rank, Binary64.rank]
    _ = compare i j := by rw [hranks, hxunits, hyunits, Finite64.compare_mul_one]

end Number.Represents

namespace WideInt

/-- **An integer of 64 bits represents the nearest of 53 digits.** -/
theorem represents (n : WideInt) : (Number.integer n).Represents (nearest n.val) := by
  obtain ⟨x, hx, hnegative, hunits⟩ := n.exists_double
  refine ⟨x, hx, hunits, fun hneg => ?_⟩
  rw [hnegative, decide_eq_true_iff] at hneg
  have hmono := nearest_mono (show n.val ≤ -1 by omega)
  rw [nearest_of_le (i := -1) (by decide)] at hmono
  omega

end WideInt

/-! ## Comparing by value -/

/-- **Two integers are compared by value** by all four comparisons. -/
structure ComparedByValue (m n : WideInt) : Prop where
  strict : strictEq (some (.number (.integer m))) (.number (.integer n)) = true ↔ m.val = n.val
  loose : looseEq (some (.number (.integer m))) (some (.number (.integer n))) = true ↔
    m.val = n.val
  relational : compareRelational? (some (.number (.integer m))) (.number (.integer n)) =
    some (compare m.val n.val)
  fields : compareFields (some (.number (.integer m))) (some (.number (.integer n))) =
    compare m.val n.val

/-- What is not taken to the same integer stays in order. -/
theorem compare_nearest {i j : Int} (h : i = j ∨ nearest i ≠ nearest j) :
    compare (nearest i) (nearest j) = compare i j := by
  have hij : nearest i < nearest j ↔ i < j ∧ nearest i ≠ nearest j := nearest_lt_iff
  have hji : nearest j < nearest i ↔ j < i ∧ nearest j ≠ nearest i := nearest_lt_iff
  rcases h with rfl | hne
  · rw [Int.compare_eq_eq.2 rfl, Int.compare_eq_eq.2 rfl]
  · exact compare_congr (hij.trans (and_iff_left hne)) (hji.trans (and_iff_left hne.symm))

theorem comparedByValue_iff {m n : WideInt} :
    ComparedByValue m n ↔ m.val = n.val ∨ nearest m.val ≠ nearest n.val := by
  have hm := m.represents
  have hn := n.represents
  constructor
  · intro h
    have hstrict := h.strict
    rw [hm.strictEq_eq hn, decide_eq_true_iff] at hstrict
    by_cases hval : m.val = n.val
    · exact .inl hval
    · exact .inr fun heq => hval (hstrict.1 heq)
  · intro h
    have hequal : nearest m.val = nearest n.val ↔ m.val = n.val :=
      ⟨fun heq => h.resolve_right fun hne => hne heq, congrArg nearest⟩
    refine ⟨?_, ?_, ?_, ?_⟩
    · rw [hm.strictEq_eq hn, decide_eq_true_iff, hequal]
    · rw [hm.looseEq_eq hn, decide_eq_true_iff, hequal]
    · rw [hm.compareRelational?_eq hn, compare_nearest h]
    · rw [hm.compareFields_eq hn, compare_nearest h]

/-! ## Fields that are incremented -/

/-- A field that comes after a number in all four comparisons. -/
structure Exceeds (q p : Number) : Prop where
  greater : (Command.gt (.number p)).test (some (.number q)) = true
  not_equal : (Command.eq (.number p)).test (some (.number q)) = false
  not_member : (Command.oneOf [.number p]).test (some (.number q)) = false
  sorted : compareFields (some (.number p)) (some (.number q)) = .lt

theorem exceeds_iff {p q : Number} {i j : Int} (hp : p.Represents i) (hq : q.Represents j) :
    Exceeds q p ↔ i < j := by
  constructor
  · intro h
    have hsorted := h.sorted
    rwa [hp.compareFields_eq hq, Int.compare_eq_lt] at hsorted
  · intro h
    have hne : j ≠ i := Int.ne_of_gt h
    refine ⟨?_, ?_, ?_, ?_⟩
    · rw [Command.test, hq.compareRelational?_eq hp, Int.compare_eq_gt.2 h]
      rfl
    · rw [Command.test, hq.looseEq_eq hp, decide_eq_false hne]
    · rw [Command.test, List.any_cons, List.any_nil, hq.strictEq_eq hp, decide_eq_false hne]
      rfl
    · rw [hp.compareFields_eq hq, Int.compare_eq_lt.2 h]

/-- What is turned into a value represents the nearest integer. -/
theorem Rendered.exists_represents {i : Int} {v : Value} (h : Rendered i v) :
    ∃ q, v = .number q ∧ q.Represents (nearest i) := by
  cases h with
  | integer hval _ => exact ⟨_, rfl, hval ▸ WideInt.represents _⟩
  | @float z hunits hlarge =>
    have hne : nearest i ≠ 0 := by
      intro hzero
      rw [← Nat.not_le, ← natAbs_nearest_le_iff, hzero] at hlarge
      exact hlarge (by decide)
    refine ⟨_, rfl, z, rfl, hunits, fun hneg => ?_⟩
    rwa [Finite64.negative_of_units hunits hne, decide_eq_true_iff] at hneg

/-- **An incremented field comes after** what it was just if the two integers are
told apart. -/
theorem exceeds_inc_iff {n d : WideInt} (hd : 0 < d.val) (hn : n.isSigned = true)
    (hsum : n.val + d.val ≤ 9223372036854775807) :
    ∃ q, (FieldUpdate.inc (.number (.integer d))).apply (some (.number (.integer n))) =
        some (.number q) ∧
      (Exceeds q (.integer n) ↔ nearest n.val ≠ nearest (n.val + d.val)) := by
  have hlower := n.lower
  by_cases hsigned : d.isSigned
  · -- the sum is exact
    let r : WideInt := ⟨n.val + d.val, by omega, by omega⟩
    have hr : r.isSigned = true := decide_eq_true hsum
    refine ⟨.integer r, congrArg some (Arithmetic.add.apply_of_signed ⟨hn, hsigned⟩ rfl hr), ?_⟩
    have hlt : nearest n.val < nearest (n.val + d.val) ↔ _ := nearest_lt_iff
    rw [exceeds_iff n.represents r.represents, hlt]
    exact and_iff_right (by omega)
  · -- the operand is past all fields, so that the sum is in any case not negative
    have hlarge : 9223372036854775807 < d.val := by
      unfold WideInt.isSigned at hsigned
      simpa using hsigned
    obtain ⟨q, hq, hrepresents⟩ := (Arithmetic.add.rendered_coerced n d).exists_represents
    have hn' : nearest n.val ≤ nearest (-1) := nearest_mono (by omega)
    have hn'' : nearest (-9223372036854775808) ≤ nearest n.val := nearest_mono hlower
    have hd' : nearest 9223372036854775808 ≤ nearest d.val := nearest_mono (by omega)
    have hsum' : nearest 0 ≤ nearest (n.val + d.val) := nearest_mono (by omega)
    have hleast : nearest (-9223372036854775808) = -9223372036854775808 := by decide
    have hbeyond : nearest 9223372036854775808 = 9223372036854775808 := by decide
    have hzero : nearest 0 = 0 := by decide
    have hminus : nearest (-1) = -1 := by decide
    have hrough : nearest 0 ≤ nearest (nearest n.val + nearest d.val) := nearest_mono (by omega)
    have happly := Arithmetic.add.apply_of_not_signed (m := n) (n := d) fun h => hsigned h.2
    refine ⟨q, congrArg some (happly.trans hq), ?_⟩
    rw [exceeds_iff n.represents hrepresents]
    refine iff_of_true ?_ (by omega)
    change nearest n.val < nearest (nearest n.val + nearest d.val)
    omega

/-! ## Integers past fifty-three digits -/

/-- **When integers are compared by value.** All four comparisons of integers are
those of the nearest integers of 53 binary digits. So they are by value just if
the integers are equal or not taken to the same such integer, in particular if
one of them has no more than 53 digits itself. And a field that is incremented,
the sum fitting in 64 bits with a sign, comes after what it was in all four, just
if the sum is not taken to the same integer. -/
theorem integers_by_value_iff (m n : WideInt) :
    let x := some (Value.number (.integer m))
    let y := Value.number (.integer n)
    (strictEq x y = decide (nearest m.val = nearest n.val) ∧
      looseEq x (some y) = decide (nearest m.val = nearest n.val) ∧
      compareRelational? x y = some (compare (nearest m.val) (nearest n.val)) ∧
      compareFields x (some y) = compare (nearest m.val) (nearest n.val)) ∧
    (ComparedByValue m n ↔ m.val = n.val ∨ nearest m.val ≠ nearest n.val) ∧
    (m.val.natAbs < 9007199254740992 ∨ n.val.natAbs < 9007199254740992 → ComparedByValue m n) ∧
    ∀ d : WideInt, 0 < d.val → m.isSigned = true → m.val + d.val ≤ 9223372036854775807 →
      ∃ q, (FieldUpdate.inc (.number (.integer d))).apply x = some (.number q) ∧
        (Exceeds q (.integer m) ↔ nearest m.val ≠ nearest (m.val + d.val)) := by
  intro x y
  have hm := m.represents
  have hn := n.represents
  refine ⟨⟨hm.strictEq_eq hn, hm.looseEq_eq hn, hm.compareRelational?_eq hn,
    hm.compareFields_eq hn⟩, comparedByValue_iff, fun hsmall => ?_, fun d => exceeds_inc_iff⟩
  refine comparedByValue_iff.2 ?_
  by_cases hval : m.val = n.val
  · exact .inl hval
  · rcases hsmall with hsmall | hsmall
    · exact .inr (nearest_ne hsmall hval)
    · exact .inr (nearest_ne hsmall (Ne.symm hval)).symm

/-- The least integer whose successor has more than 53 digits. -/
def lastExact : WideInt := ⟨9007199254740992, by decide, by decide⟩

/-- It is told apart from its predecessor, and exceeds it. -/
theorem integers_by_value_iff_lastExact :
    let previous : WideInt := ⟨9007199254740991, by decide, by decide⟩
    let one : WideInt := ⟨1, by decide, by decide⟩
    ComparedByValue previous lastExact ∧
      ∃ q, (FieldUpdate.inc (.number (.integer one))).apply (some (.number (.integer previous))) =
        some (.number q) ∧ Exceeds q (.integer previous) := by
  intro previous one
  obtain ⟨-, -, hsmall, hinc⟩ := integers_by_value_iff previous lastExact
  obtain ⟨q, hq, hexceeds⟩ := hinc one (by decide) (by decide) (by decide)
  exact ⟨hsmall (.inl (by decide)), q, hq, hexceeds.2 (by decide)⟩

/-- **Its successor is not told apart from it** by any of the comparisons, so that
incrementing it leaves a field that is still equal to it. -/
theorem not_by_value_lastExact :
    let next : WideInt := ⟨9007199254740993, by decide, by decide⟩
    let one : WideInt := ⟨1, by decide, by decide⟩
    let x := some (Value.number (.integer lastExact))
    let y := Value.number (.integer next)
    lastExact.val ≠ next.val ∧ strictEq x y = true ∧ looseEq x (some y) = true ∧
      compareRelational? x y = some .eq ∧ compareFields x (some y) = .eq ∧
      (FieldUpdate.inc (.number (.integer one))).apply x = some y ∧
      ¬ Exceeds (.integer next) (.integer lastExact) := by
  intro next one x y
  have hlast := lastExact.represents
  have hnext := next.represents
  have hsame : nearest lastExact.val = nearest next.val := by decide
  refine ⟨by decide, ?_, ?_, ?_, ?_, rfl, ?_⟩
  · rw [hlast.strictEq_eq hnext, hsame, decide_eq_true rfl]
  · rw [hlast.looseEq_eq hnext, hsame, decide_eq_true rfl]
  · rw [hlast.compareRelational?_eq hnext, hsame, Int.compare_eq_eq.2 rfl]
  · rw [hlast.compareFields_eq hnext, hsame, Int.compare_eq_eq.2 rfl]
  · rw [exceeds_iff hlast hnext, hsame]
    exact Int.lt_irrefl _

end DocumentStore
