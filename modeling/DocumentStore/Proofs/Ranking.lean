import DocumentStore.Proofs.Distinction
import DocumentStore.Proofs.Equivalence
import DocumentStore.Proofs.Tiebreak

/-!
# Ranking — the order of fields and the relational comparison

Within numbers, strings and booleans the order of fields and the relational
comparison are one order, with one exception: the relational comparison, like
both equalities, takes the zeros for equal, and the order of fields has the
negative one first (`Comparable.agree_iff`). So a sort by a field puts those
documents first that satisfy `lt` of a value, then those that are equal to it,
then those that satisfy `gt` (`SortKeys.inBands_sort`); but among the equal ones
it leaves to the keys behind only what has the same zero
(`SortKeys.passing_eq_sort`, `SortKeys.AllEqual.sort_eq_iff`).
-/

namespace DocumentStore

/-! ## Zeros -/

/-- The field is the negative zero. -/
def isNegativeZero : Option Value → Bool
  | some (.number n) => decide (n.toBinary64 = .finite (.zero true))
  | _ => false

/-- **Zeros in order**: the negative one and the other. -/
inductive ZerosInOrder : Option Value → Option Value → Prop
  | intro {m n : Number} (hm : m.toBinary64 = .finite (.zero true))
      (hn : n.toBinary64 = .finite (.zero false)) :
      ZerosInOrder (some (.number m)) (some (.number n))

/-- Both zeros, in either order. -/
def OppositeZeros (a b : Option Value) : Prop := ZerosInOrder a b ∨ ZerosInOrder b a

/-! ## Comparing within a kind -/

/-- Fields of one kind: two numbers, two strings or two booleans. -/
inductive Comparable : Option Value → Option Value → Prop
  | number (m n : Number) : Comparable (some (.number m)) (some (.number n))
  | string (s t : String) : Comparable (some (.string s)) (some (.string t))
  | bool (a b : Bool) : Comparable (some (.bool a)) (some (.bool b))

/-- What a number stands for, in units; of all other fields the same. -/
def unitsKey : Option Value → Int
  | some (.number n) => n.toBinary64.units?.getD 0
  | _ => 0

/-- The comparison of what fields stand for. -/
def compareValues : Option Value → Option Value → Ordering :=
  compareLex (compareOn unitsKey) (compareLex (compareOn textKey) (compareOn flagKey))

instance transCmp_compareValues : Std.TransCmp compareValues := by
  unfold compareValues
  infer_instance

variable {a b c : Option Value} {x : Value}

theorem compareValues_number {m n : Number} {x y : Finite64} (hm : m.toBinary64 = .finite x)
    (hn : n.toBinary64 = .finite y) :
    compareValues (some (.number m)) (some (.number n)) = compare x.units y.units := by
  simp [compareValues, compareLex, compareOn, unitsKey, textKey, flagKey, hm, hn, Binary64.units?]

theorem compareValues_string (s t : String) :
    compareValues (some (.string s)) (some (.string t)) = compare s t := by
  simp [compareValues, compareLex, compareOn, unitsKey, textKey, flagKey]

theorem compareValues_bool (p q : Bool) :
    compareValues (some (.bool p)) (some (.bool q)) = compare p q := by
  simp [compareValues, compareLex, compareOn, unitsKey, textKey, flagKey]

theorem ZerosInOrder.compareValues_eq (h : ZerosInOrder a b) : compareValues a b = .eq := by
  obtain ⟨hm, hn⟩ := h
  rw [compareValues_number hm hn]
  rfl

theorem ZerosInOrder.isNegativeZero (h : ZerosInOrder a b) :
    isNegativeZero a = true ∧ isNegativeZero b = false := by
  obtain ⟨hm, hn⟩ := h
  simp [DocumentStore.isNegativeZero, hm, hn, Finite64.zero]

namespace Comparable

theorem symm (h : Comparable a b) : Comparable b a := by
  cases h with
  | number m n => exact .number n m
  | string s t => exact .string t s
  | bool p q => exact .bool q p

theorem trans (h : Comparable a b) (h' : Comparable b c) : Comparable a c := by
  cases h with
  | number m n => cases h' with | number _ k => exact .number m k
  | string s t => cases h' with | string _ u => exact .string s u
  | bool p q => cases h' with | bool _ r => exact .bool p r

/-- **The relational comparison** is that of what the fields stand for. -/
theorem compareRelational?_eq (h : Comparable a (some x)) :
    compareRelational? a x = some (compareValues a (some x)) := by
  cases h with
  | number m n =>
    obtain ⟨x, hx⟩ := m.exists_double
    obtain ⟨y, hy⟩ := n.exists_double
    change m.toBinary64.compare? n.toBinary64 = _
    rw [compareValues_number hx hy, hx, hy]
    rfl
  | string s t =>
    rw [compareValues_string]
    rfl
  | bool p q => cases p <;> cases q <;> decide +kernel

/-- **Loose equality** is theirs. -/
theorem looseEq_iff (h : Comparable a (some x)) :
    looseEq a (some x) = true ↔ compareValues a (some x) = .eq := by
  cases h with
  | number m n =>
    have hcompare : m.toBinary64.compare? n.toBinary64 = _ := (number m n).compareRelational?_eq
    change m.toBinary64.equal n.toBinary64 = true ↔ _
    rw [Binary64.equal, hcompare, beq_iff_eq, Option.some.injEq]
  | string s t =>
    rw [compareValues_string, Std.LawfulEqOrd.compare_eq_iff_eq]
    exact beq_iff_eq
  | bool p q =>
    rw [compareValues_bool, Std.LawfulEqOrd.compare_eq_iff_eq]
    exact beq_iff_eq

theorem test_lt_iff (h : Comparable a (some x)) :
    (Command.lt x).test a = true ↔ compareValues a (some x) = .lt := by
  rw [Command.test, h.compareRelational?_eq, beq_iff_eq, Option.some.injEq]

theorem test_eq_iff (h : Comparable a (some x)) :
    (Command.eq x).test a = true ↔ compareValues a (some x) = .eq := h.looseEq_iff

theorem test_gt_iff (h : Comparable a (some x)) :
    (Command.gt x).test a = true ↔ compareValues a (some x) = .gt := by
  rw [Command.test, h.compareRelational?_eq, beq_iff_eq, Option.some.injEq]

/-- **The order of fields** puts before another what is less, and the negative zero
before the other. -/
theorem compareFields_eq_lt_iff (h : Comparable a b) :
    compareFields a b = .lt ↔ compareValues a b = .lt ∨ ZerosInOrder a b := by
  cases h with
  | number m n =>
    obtain ⟨x, hx⟩ := m.exists_double
    obtain ⟨y, hy⟩ := n.exists_double
    have hranks : compareFields (some (.number m)) (some (.number n)) = compare x.rank y.rank := by
      change compare m.toBinary64.rank n.toBinary64.rank = _
      rw [hx, hy]
      rfl
    have hzeros : ZerosInOrder (some (.number m)) (some (.number n)) ↔
        x = .zero true ∧ y = .zero false := by
      constructor
      · rintro ⟨hm, hn⟩
        exact ⟨Binary64.finite.inj (hx.symm.trans hm), Binary64.finite.inj (hy.symm.trans hn)⟩
      · rintro ⟨rfl, rfl⟩
        exact ⟨hx, hy⟩
    rw [hranks, compareValues_number hx hy, hzeros, Int.compare_eq_lt, Int.compare_eq_lt,
      Finite64.rank_lt_iff]
  | string s t =>
    rw [compareValues_string, or_iff_left (nomatch ·)]
    exact Iff.rfl
  | bool p q =>
    rw [compareValues_bool, or_iff_left (nomatch ·)]
    exact Iff.rfl

theorem compareFields_eq_gt_iff (h : Comparable a b) :
    compareFields a b = .gt ↔ compareValues a b = .gt ∨ ZerosInOrder b a := by
  have hvalues : compareValues a b = .gt ↔ compareValues b a = .lt := Std.OrientedCmp.gt_iff_lt
  rw [Std.OrientedCmp.gt_iff_lt, hvalues]
  exact h.symm.compareFields_eq_lt_iff

theorem zerosInOrder_iff (h : Comparable a b) : ZerosInOrder a b ↔
    compareValues a b = .eq ∧ isNegativeZero a = true ∧ isNegativeZero b = false := by
  refine ⟨fun hzeros => ⟨hzeros.compareValues_eq, hzeros.isNegativeZero⟩,
    fun ⟨hvalues, ha, hb⟩ => ?_⟩
  cases h with
  | number m n =>
    obtain ⟨y, hy⟩ := n.exists_double
    have hm : m.toBinary64 = .finite (.zero true) := of_decide_eq_true ha
    have hne : ¬ n.toBinary64 = .finite (.zero true) := of_decide_eq_false hb
    rw [compareValues_number hm hy, Int.compare_eq_eq] at hvalues
    have hzero : y = .zero true ∨ y = .zero false := Finite64.eq_zero_of_units hvalues.symm
    rcases hzero with rfl | rfl
    · exact absurd hy hne
    · exact .intro hm hy
  | string s t => cases ha
  | bool p q => cases ha

/-- **The order of fields ties** what is equal and of the same zero. -/
theorem compareFields_eq_eq_iff (h : Comparable a b) : compareFields a b = .eq ↔
    compareValues a b = .eq ∧ ¬ ZerosInOrder a b ∧ ¬ ZerosInOrder b a := by
  have hneither (o : Ordering) : o = .eq ↔ ¬ o = .lt ∧ ¬ o = .gt := by cases o <;> decide
  rw [hneither, h.compareFields_eq_lt_iff, h.compareFields_eq_gt_iff, hneither (compareValues a b),
    not_or, not_or, and_and_and_comm]

/-- **The two orders agree**, but on opposite zeros. -/
theorem agree_iff (h : Comparable a (some x)) :
    compareRelational? a x = some (compareFields a (some x)) ↔ ¬ OppositeZeros a (some x) := by
  rw [h.compareRelational?_eq, Option.some.injEq, OppositeZeros, not_or]
  constructor
  · intro heq
    have hties := h.compareFields_eq_eq_iff
    rw [← heq] at hties
    exact ⟨fun hzeros => (hties.1 hzeros.compareValues_eq).2.1 hzeros,
      fun hzeros => (hties.1 (Std.OrientedCmp.eq_symm hzeros.compareValues_eq)).2.2 hzeros⟩
  · intro hzeros
    cases hvalues : compareValues a (some x) with
    | lt => exact (h.compareFields_eq_lt_iff.2 (.inl hvalues)).symm
    | gt => exact (h.compareFields_eq_gt_iff.2 (.inl hvalues)).symm
    | eq => exact (h.compareFields_eq_eq_iff.2 ⟨hvalues, hzeros⟩).symm

/-- What the order of fields allows in front of a field does not exceed it. -/
theorem compareValues_isLE (h : Comparable a b) (hle : (compareFields a b).isLE = true) :
    (compareValues a b).isLE = true := by
  rw [Ordering.isLE_iff_ne_gt] at *
  exact fun hgt => hle (h.compareFields_eq_gt_iff.2 (.inl hgt))

end Comparable

/-! ## Lists in order -/

/-- A list in which nothing passes a test behind what does not is made of what
passes and of what does not. -/
theorem filter_append_filter_not {α : Type} {p : α → Bool} {docs : List α}
    (h : docs.Pairwise fun a b => p b = true → p a = true) :
    docs.filter p ++ docs.filter (!p ·) = docs := by
  induction docs with
  | nil => rfl
  | cons a rest ih =>
    obtain ⟨hhead, htail⟩ := List.pairwise_cons.1 h
    cases hp : p a with
    | true =>
      rw [List.filter_cons_of_pos hp, List.filter_cons_of_neg (by simp [hp]), List.cons_append,
        ih htail]
    | false =>
      -- behind it nothing passes
      have hrest (b : α) (hb : b ∈ rest) : ¬ p b = true := fun hpb => by
        rw [hhead b hb hpb] at hp
        cases hp
      rw [List.filter_cons_of_neg (by simp [hp]), List.filter_eq_nil_iff.2 hrest, List.nil_append,
        List.filter_eq_self.2]
      simpa [hp] using hrest

/-- A list in which every element is placed below, at or above something, none below
behind another and none above in front of another, is made of the three parts. -/
theorem eq_filter_append_filter {α : Type} {place : α → Ordering} {docs : List α}
    (h : docs.Pairwise fun a b => (place b = .lt → place a = .lt) ∧
      (place a = .gt → place b = .gt)) :
    docs = docs.filter (place · == .lt) ++ docs.filter (place · == .eq) ++
      docs.filter (place · == .gt) := by
  have habove : docs.filter (place · != .gt) ++ docs.filter (fun a => !(place a != .gt)) = docs :=
    filter_append_filter_not <| h.imp fun hab hb =>
      bne_iff_ne.2 fun ha => bne_iff_ne.1 hb (hab.2 ha)
  have hbelow : (docs.filter (place · != .gt)).filter (place · == .lt) ++
      (docs.filter (place · != .gt)).filter (fun a => !(place a == .lt)) =
        docs.filter (place · != .gt) :=
    filter_append_filter_not <| (h.filter _).imp fun hab hb => beq_iff_eq.2 (hab.1 (eq_of_beq hb))
  have hlt (o : Ordering) : (o == .lt && o != .gt) = (o == .lt) := by cases o <;> rfl
  have heq (o : Ordering) : (!(o == .lt) && o != .gt) = (o == .eq) := by cases o <;> rfl
  have hgt (o : Ordering) : (!(o != .gt)) = (o == .gt) := by cases o <;> rfl
  rw [List.filter_filter, List.filter_filter] at hbelow
  simp only [hlt, heq] at hbelow
  simp only [hgt] at habove
  rw [hbelow, habove]

namespace SortKeys

variable {field : String} {direction : Direction} {rest : SortKeys} {docs : List Value}

/-- The documents of a list whose field passes a command. -/
def passing (field : String) (c : Command) (docs : List Value) : List Value :=
  docs.filter fun d => c.test (d.member? field)

/-- **In bands**: the documents whose field is less than a value, those whose field
is equal to it, and those whose field is greater. -/
def InBands (field : String) (x : Value) (docs : List Value) : Prop :=
  docs = passing field (.lt x) docs ++ passing field (.eq x) docs ++ passing field (.gt x) docs

/-- The field of every document is of the kind of a value. -/
def AllComparable (field : String) (x : Value) (docs : List Value) : Prop :=
  ∀ d ∈ docs, Comparable (d.member? field) (some x)

/-- What a key allows it allows for its field. -/
theorem isLE_of_precedes {a b : Value}
    (h : precedes ((field, .ascending) :: rest) a b = true) :
    (compareFields (a.member? field) (b.member? field)).isLE = true := by
  rw [precedes, compareBy, Ordering.isLE_then_iff_or] at h
  rcases h with h | ⟨h, -⟩
  · exact Ordering.isLE_of_eq_lt h
  · exact Ordering.isLE_of_eq_eq h

/-- Where the field of a document stands to a value. -/
def place (field : String) (x d : Value) : Ordering := compareValues (d.member? field) (some x)

theorem passing_lt (hk : AllComparable field x docs) :
    passing field (.lt x) docs = docs.filter (place field x · == .lt) :=
  List.filter_congr fun d hd => Bool.eq_iff_iff.2 ((hk d hd).test_lt_iff.trans beq_iff_eq.symm)

theorem passing_eq (hk : AllComparable field x docs) :
    passing field (.eq x) docs = docs.filter (place field x · == .eq) :=
  List.filter_congr fun d hd => Bool.eq_iff_iff.2 ((hk d hd).test_eq_iff.trans beq_iff_eq.symm)

theorem passing_gt (hk : AllComparable field x docs) :
    passing field (.gt x) docs = docs.filter (place field x · == .gt) :=
  List.filter_congr fun d hd => Bool.eq_iff_iff.2 ((hk d hd).test_gt_iff.trans beq_iff_eq.symm)

/-- **A list in the order of a field is in bands.** -/
theorem inBands_of_pairwise (hk : AllComparable field x docs)
    (h : docs.Pairwise fun a b => (compareFields (a.member? field) (b.member? field)).isLE = true) :
    InBands field x docs := by
  rw [InBands, passing_lt hk, passing_eq hk, passing_gt hk]
  refine eq_filter_append_filter (h.imp_of_mem fun {a b} ha hb hab => ?_)
  have hle := ((hk a ha).trans (hk b hb).symm).compareValues_isLE hab
  refine ⟨Std.TransCmp.lt_of_isLE_of_lt hle, fun hgt => ?_⟩
  -- what is above the value stands in front of nothing that is not
  rw [place, Std.OrientedCmp.gt_iff_lt] at hgt ⊢
  exact Std.TransCmp.lt_of_lt_of_isLE hgt hle

/-! ## What is left to the keys behind -/

instance (keys : SortKeys) : Std.Symm keys.Ties := ⟨fun _ _ => Ties.symm⟩

/-- A key that ties all documents of a list decides nothing. -/
theorem sort_cons_of_ties {key : String × Direction} (h : ∀ a ∈ docs, ∀ b ∈ docs, Ties [key] a b) :
    sort (key :: rest) docs = sort rest docs := by
  have hmem (a : Value) (ha : a ∈ sort rest docs) : a ∈ docs :=
    (stableSorted_sort rest docs).perm.mem_iff.1 ha
  have hsorted : (sort rest docs).Pairwise fun a b => Before [key] a b ∨ Ties [key] a b :=
    (List.pairwise_of_forall_mem_list fun a ha b hb => .inr (h a (hmem a ha) b (hmem b hb)))
  calc sort (key :: rest) docs
    _ = sort [key] (sort rest docs) := sort_append [key] rest docs
    _ = sort rest docs := sort_eq_self_iff.2 hsorted.isChain

/-- A sort by a field is in the order of the field. -/
theorem pairwise_sort (field : String) (rest : SortKeys) (docs : List Value) :
    (sort ((field, .ascending) :: rest) docs).Pairwise fun a b =>
      (compareFields (a.member? field) (b.member? field)).isLE = true :=
  (stableSorted_sort _ docs).pairwise.imp isLE_of_precedes

/-- **Sorting leaves the documents in bands.** -/
theorem inBands_sort (hk : AllComparable field x docs) (rest : SortKeys) :
    InBands field x (sort ((field, .ascending) :: rest) docs) :=
  inBands_of_pairwise (fun d hd => hk d ((stableSorted_sort _ docs).perm.mem_iff.1 hd))
    (pairwise_sort field rest docs)

/-- The documents of a list whose field is the negative zero. -/
def negativeZeros (field : String) (docs : List Value) : List Value :=
  docs.filter fun d => isNegativeZero (d.member? field)

/-- The documents of a list whose field is not. -/
def otherThanNegativeZero (field : String) (docs : List Value) : List Value :=
  docs.filter fun d => !isNegativeZero (d.member? field)

/-- Every two documents have fields of one kind that are equal. -/
def AllEqual (field : String) (docs : List Value) : Prop :=
  ∀ a ∈ docs, ∀ b ∈ docs, Comparable (a.member? field) (b.member? field) ∧
    compareValues (a.member? field) (b.member? field) = .eq

/-- What is equal to one value is equal. -/
theorem allEqual_passing (hk : AllComparable field x docs) :
    AllEqual field (passing field (.eq x) docs) := by
  intro a ha b hb
  obtain ⟨ha, hax⟩ := List.mem_filter.1 ha
  obtain ⟨hb, hbx⟩ := List.mem_filter.1 hb
  exact ⟨(hk a ha).trans (hk b hb).symm, Std.TransCmp.eq_trans ((hk a ha).test_eq_iff.1 hax)
    (Std.OrientedCmp.eq_symm ((hk b hb).test_eq_iff.1 hbx))⟩

theorem AllEqual.filter (h : AllEqual field docs) (p : Value → Bool) :
    AllEqual field (docs.filter p) := fun a ha b hb =>
  h a (List.mem_of_mem_filter ha) b (List.mem_of_mem_filter hb)

/-- A field that is equal in all documents, without opposite zeros, decides nothing. -/
theorem AllEqual.sort_eq (h : AllEqual field docs)
    (hzeros : ∀ a ∈ docs, ∀ b ∈ docs, ¬ ZerosInOrder (a.member? field) (b.member? field)) :
    sort ((field, direction) :: rest) docs = sort rest docs := by
  refine sort_cons_of_ties fun a ha b hb => ties_cons_iff.2 ⟨?_, ties_nil a b⟩
  obtain ⟨hab, hvalues⟩ := h a ha b hb
  exact hab.compareFields_eq_eq_iff.2 ⟨hvalues, hzeros a ha b hb, hzeros b hb a ha⟩

/-- **Among equal documents** those with the negative zero come first, and the keys
behind decide apart from that. -/
theorem AllEqual.sort_eq_append (h : AllEqual field docs) (rest : SortKeys) :
    sort ((field, .ascending) :: rest) docs =
      sort rest (negativeZeros field docs) ++ sort rest (otherThanNegativeZero field docs) := by
  have hmem (a : Value) (ha : a ∈ sort ((field, .ascending) :: rest) docs) : a ∈ docs :=
    (stableSorted_sort _ docs).perm.mem_iff.1 ha
  have hfront : (sort ((field, .ascending) :: rest) docs).Pairwise fun a b =>
      isNegativeZero (b.member? field) = true → isNegativeZero (a.member? field) = true := by
    refine (pairwise_sort field rest docs).imp_of_mem fun {a b} ha hb hle hneg => ?_
    obtain ⟨hba, hvalues⟩ := h b (hmem b hb) a (hmem a ha)
    -- otherwise the two would be zeros in the wrong order
    by_contra hother
    have hzeros := hba.zerosInOrder_iff.2 ⟨hvalues, hneg, Bool.eq_false_iff.2 hother⟩
    exact Ordering.isLE_iff_ne_gt.1 hle (hba.symm.compareFields_eq_gt_iff.2 (.inr hzeros))
  have hnegative : sort ((field, .ascending) :: rest) (negativeZeros field docs) =
      sort rest (negativeZeros field docs) := by
    refine (h.filter _).sort_eq fun a _ b hb hzeros => ?_
    exact absurd (List.mem_filter.1 hb).2 (by simp [hzeros.isNegativeZero.2])
  have hother : sort ((field, .ascending) :: rest) (otherThanNegativeZero field docs) =
      sort rest (otherThanNegativeZero field docs) := by
    refine (h.filter _).sort_eq fun a ha b _ hzeros => ?_
    exact absurd (List.mem_filter.1 ha).2 (by simp [hzeros.isNegativeZero.1])
  rw [← hnegative, ← hother, negativeZeros, otherThanNegativeZero, ← filter_sort, ← filter_sort]
  exact (filter_append_filter_not hfront).symm

/-- **The keys behind decide alone among equal documents**, whichever they are, just
if there are no opposite zeros among them. -/
theorem AllEqual.sort_eq_iff (h : AllEqual field docs) :
    (∀ rest, sort ((field, .ascending) :: rest) docs = sort rest docs) ↔
      ∀ a ∈ docs, ∀ b ∈ docs, ¬ ZerosInOrder (a.member? field) (b.member? field) := by
  refine ⟨fun hrest a ha b hb hzeros => ?_, fun hzeros rest => h.sort_eq hzeros⟩
  -- with the same field behind, descending, the list is in order both ways round
  have hascending := hrest [(field, .descending)] ▸ pairwise_sort field [(field, .descending)] docs
  have hdescending := (stableSorted_sort [(field, .descending)] docs).pairwise
  have hties : (sort [(field, .descending)] docs).Pairwise (Ties [(field, .descending)]) := by
    refine (hascending.and hdescending).imp fun {a b} ⟨hle, hge⟩ =>
      ties_cons_iff.2 ⟨?_, ties_nil a b⟩
    rw [precedes, compareBy] at hge
    cases hfields : compareFields (a.member? field) (b.member? field) with
    | lt => rw [hfields] at hge; cases hge
    | eq => rfl
    | gt => rw [hfields] at hle; cases hle
  have hmem {a : Value} (ha : a ∈ docs) : a ∈ sort [(field, .descending)] docs :=
    (stableSorted_sort _ docs).perm.mem_iff.2 ha
  have htie := List.Pairwise.forall_of_forall (fun a _ => Ties.refl _ a) hties (hmem ha) (hmem hb)
  have hlt := (h a ha b hb).1.compareFields_eq_lt_iff.2 (.inr hzeros)
  rw [(ties_cons_iff.1 htie).1] at hlt
  cases hlt

/-- **Sorted documents that are equal to a value** are sorted by the keys behind, the
negative zeros first. -/
theorem passing_eq_sort (hk : AllComparable field x docs) (rest : SortKeys) :
    passing field (.eq x) (sort ((field, .ascending) :: rest) docs) =
      sort rest (negativeZeros field (passing field (.eq x) docs)) ++
        sort rest (otherThanNegativeZero field (passing field (.eq x) docs)) := by
  rw [passing, filter_sort]
  exact (allEqual_passing hk).sort_eq_append rest

end SortKeys

/-! ## Results in order -/

/-- What is read of a view in the order of a field is in bands. -/
theorem View.inBands_get {v : View} {db : Database} {field : String} {rest : SortKeys} {x : Value}
    (horder : v.options.orderBy = (field, .ascending) :: rest)
    (hk : SortKeys.AllComparable field x (v.documents db)) :
    SortKeys.InBands field x (v.get db) := by
  have hsub : (v.get db).Sublist
      (SortKeys.sort ((field, .ascending) :: rest) (v.documents db)) := by
    rw [get_eq, horder]
    exact v.options.page_sublist _
  refine SortKeys.inBands_of_pairwise (fun d hd => hk d ?_)
    ((SortKeys.pairwise_sort field rest _).sublist hsub)
  exact (SortKeys.stableSorted_sort _ _).perm.mem_iff.1 (hsub.mem hd)

open SortKeys in
/-- **The order of fields is that of the relational comparison**, but for the zeros.
Of two numbers, two strings or two booleans the order of fields is what the
relational comparison gives, just if they are not opposite zeros; the relational
comparison takes these for equal, and the order of fields has the negative one
first.

A sort by a field that is of one kind in all documents, the keys behind being any,
leaves those first that satisfy `lt` of a value of the kind, then those equal to
the value, then those that satisfy `gt`; and so is what is read of a view that is
sorted so, whatever the page. The keys behind decide between equal documents, those
with the negative zero coming first; alone they decide, whichever they are, just
if there are no opposite zeros among the equal documents. -/
theorem order_is_relational_iff (field : String) (x : Value) :
    (∀ a, Comparable a (some x) →
      (compareRelational? a x = some (compareFields a (some x)) ↔ ¬ OppositeZeros a (some x)) ∧
      (OppositeZeros a (some x) → compareRelational? a x = some .eq) ∧
      (compareFields a (some x) = .lt ↔
        compareRelational? a x = some .lt ∨ ZerosInOrder a (some x))) ∧
    (∀ docs, AllComparable field x docs →
      (∀ rest, InBands field x (sort ((field, .ascending) :: rest) docs) ∧
        passing field (.eq x) (sort ((field, .ascending) :: rest) docs) =
          sort rest (negativeZeros field (passing field (.eq x) docs)) ++
            sort rest (otherThanNegativeZero field (passing field (.eq x) docs))) ∧
      ((∀ rest, passing field (.eq x) (sort ((field, .ascending) :: rest) docs) =
          sort rest (passing field (.eq x) docs)) ↔
        ∀ a ∈ passing field (.eq x) docs, ∀ b ∈ passing field (.eq x) docs,
          ¬ ZerosInOrder (a.member? field) (b.member? field))) ∧
    (∀ (v : View) (db : Database) (rest : SortKeys),
      v.options.orderBy = (field, .ascending) :: rest →
      AllComparable field x (v.documents db) → InBands field x (v.get db)) ∧
    ∀ (doc : Document) (id : String) (c : Command),
      c.test ((doc.withId id).member? field) =
        (Filter.empty.field field (.command c)).test id doc := by
  refine ⟨fun a h => ⟨h.agree_iff, ?_, ?_⟩, fun docs hk => ⟨fun rest =>
    ⟨inBands_sort hk rest, passing_eq_sort hk rest⟩, ?_⟩, fun v db rest => View.inBands_get,
    fun doc id c => ?_⟩
  · rintro (hzeros | hzeros)
    · rw [h.compareRelational?_eq, hzeros.compareValues_eq]
    · rw [h.compareRelational?_eq, Std.OrientedCmp.eq_symm hzeros.compareValues_eq]
  · rw [h.compareRelational?_eq, Option.some.injEq]
    exact h.compareFields_eq_lt_iff
  · simp only [passing, filter_sort]
    exact (allEqual_passing hk).sort_eq_iff
  · rw [Document.member?_withId]
    exact (Bool.and_true _).symm

open SortKeys in
/-- Of three documents one has a greater number, and two have the number one, as an
integer and as a double, which the key behind puts in order. -/
theorem order_is_relational_iff_ones :
    let one : Value := .number (.integer ⟨1, by decide, by decide⟩)
    let docs : List Value := [.object [("n", .number (.integer ⟨2, by decide, by decide⟩))],
      .object [("n", one), ("m", .string "b")],
      .object [("n", .number (.float ⟨false, 1023, 0⟩)), ("m", .string "a")]]
    let v : View := ⟨0, 0, "t", some [("a", 1), ("b", 2), ("c", 3)],
      ⟨[("_id", .ascending)], none, none⟩⟩
    AllComparable "n" one docs ∧
      compareRelational? (some one) one = some (compareFields (some one) (some one)) ∧
      InBands "n" one (sort [("n", .ascending), ("m", .ascending)] docs) ∧
      passing "n" (.eq one) (sort [("n", .ascending), ("m", .ascending)] docs) =
        sort [("m", .ascending)] (passing "n" (.eq one) docs) ∧
      InBands "_id" (.string "b") (v.get (Session.rankingAt 8).database) := by
  intro one docs v
  obtain ⟨hagree, hsort, -, -⟩ := order_is_relational_iff "n" one
  obtain ⟨-, -, hget, -⟩ := order_is_relational_iff "_id" (.string "b")
  have hdocs : AllComparable "n" one docs := by
    intro d hd
    simp only [docs, List.mem_cons, List.not_mem_nil, or_false] at hd
    rcases hd with rfl | rfl | rfl <;> exact .number _ _
  have hpositive (d : Value) (hd : d ∈ docs) : isNegativeZero (d.member? "n") = false := by
    simp only [docs, List.mem_cons, List.not_mem_nil, or_false] at hd
    rcases hd with rfl | rfl | rfl <;> decide +kernel
  have hzeros (a : Value) (ha : a ∈ passing "n" (.eq one) docs) (b : Value)
      (_ : b ∈ passing "n" (.eq one) docs) : ¬ ZerosInOrder (a.member? "n") (b.member? "n") := by
    intro h
    exact absurd h.isNegativeZero.1 (by simp [hpositive a (List.mem_of_mem_filter ha)])
  obtain ⟨hbands, hties⟩ := hsort docs hdocs
  refine ⟨hdocs, (hagree (some one) (.number _ _)).1.2 ?_, (hbands [("m", .ascending)]).1,
    hties.2 hzeros [("m", .ascending)], hget v _ [] rfl ?_⟩
  · rintro (h | h) <;> exact absurd h.isNegativeZero.1 (by decide +kernel)
  · have hdocuments : v.documents (Session.rankingAt 8).database = [.object [("_id", .string "b")],
        .object [("g", .bool true), ("_id", .string "c")]] := rfl
    rw [hdocuments]
    intro d hd
    simp only [List.mem_cons, List.not_mem_nil, or_false] at hd
    rcases hd with rfl | rfl <;> exact .string _ _

/-- **The negative zero comes first**, though the relational comparison has it equal to
the other: so of two documents equal to zero the one comes first that the key
behind puts last. -/
theorem not_relational_of_zeros :
    let negative : Value := .number (.float (.zero true))
    let zero : Value := .number (.float (.zero false))
    let a : Value := .object [("n", negative), ("m", .bool true)]
    let b : Value := .object [("n", zero), ("m", .bool false)]
    Comparable (some negative) (some zero) ∧
      compareRelational? (some negative) zero = some .eq ∧
      compareFields (some negative) (some zero) = .lt ∧
      (Command.eq zero).test (a.member? "n") = true ∧
      (Command.eq zero).test (b.member? "n") = true ∧
      SortKeys.compareBy [("m", .ascending)] b a = .lt ∧
      SortKeys.compareBy [("n", .ascending), ("m", .ascending)] b a = .gt :=
  ⟨.number _ _, by decide, by decide, by decide, by decide, by decide, by decide⟩

end DocumentStore
