import DocumentStore.Query.Options
import DocumentStore.Proofs.Doubles

/-!
# Comparison — the order that sorting relies on

Fields are compared by their kind and then by what counts within the kind: the
rank of a number, the text of a string, a boolean. Each of these is a key of
its own, which is the same for all fields of other kinds, so that the
comparison is that of four keys one after the other (`compareFields_eq`) and
inherits its laws from theirs. Documents are compared by a list of fields, each
in a direction, and turning a comparison round or putting one behind another
keeps the laws too (`SortKeys.transCmp_compareBy`).

What the order does not tell apart is said by `Tied`.
-/

namespace DocumentStore

/-- **A total preorder**, as a comparison: what a sort asks of the comparison
it is given. -/
structure TotalPreorder {α : Type} (cmp : α → α → Ordering) : Prop where
  refl : ∀ a, cmp a a = .eq
  swap : ∀ a b, cmp b a = (cmp a b).swap
  trans : ∀ a b c, (cmp a b).isLE → (cmp b c).isLE → (cmp a c).isLE
  eq_trans : ∀ a b c, cmp a b = .eq → cmp b c = .eq → cmp a c = .eq

theorem TotalPreorder.of_transCmp {α : Type} (cmp : α → α → Ordering) [Std.TransCmp cmp] :
    TotalPreorder cmp where
  refl _ := Std.ReflCmp.compare_self
  swap _ _ := Std.OrientedCmp.eq_swap
  trans _ _ _ := Std.TransCmp.isLE_trans
  eq_trans _ _ _ := Std.TransCmp.eq_trans

variable {a b : Option Value}

/-! ## Fields -/

/-- What counts of a number; of all other fields the same. -/
def numberKey : Option Value → Int
  | some (.number n) => n.toBinary64.rank
  | _ => 0

/-- What counts of a string. -/
def textKey : Option Value → String
  | some (.string s) => s
  | _ => ""

/-- What counts of a boolean. -/
def flagKey : Option Value → Bool
  | some (.bool b) => b
  | _ => false

/-- The comparison of what counts within the kinds. -/
def compareWithin : Option Value → Option Value → Ordering :=
  compareLex (compareOn numberKey) (compareLex (compareOn textKey) (compareOn flagKey))

/-- Within a kind only the key of that kind decides. -/
theorem compareAlike_eq (h : kindRank a = kindRank b) : compareAlike a b = compareWithin a b := by
  unfold compareAlike compareWithin compareLex compareOn
  -- of unlike kinds `h` is absurd, of like kinds the two keys of other kinds agree
  rcases a with _ | (_ | _ | _ | _ | _ | _) <;> rcases b with _ | (_ | _ | _ | _ | _ | _) <;>
    simp [kindRank, numberKey, textKey, flagKey] at h ⊢

/-- **Fields are compared by keys**, the kind before the others. -/
theorem compareFields_eq : compareFields = compareLex (compareOn kindRank) compareWithin := by
  funext a b
  rw [compareFields, compareLex, compareOn]
  cases h : compare (kindRank a) (kindRank b) with
  | lt => rfl
  | gt => rfl
  | eq => rw [compareAlike_eq (Std.LawfulEqOrd.eq_of_compare h)]

instance transCmp_compareFields : Std.TransCmp compareFields := by
  rw [compareFields_eq]
  unfold compareWithin
  infer_instance

/-- Fields that the order does not tell apart: both are missing or null, numbers
of one double, the same string or boolean, objects of any members, arrays of any
items. -/
inductive Tied : Option Value → Option Value → Prop
  | absent : Tied none none
  | null : Tied (some .null) (some .null)
  | number {m n : Number} (h : m.toBinary64 = n.toBinary64) :
      Tied (some (.number m)) (some (.number n))
  | string (s : String) : Tied (some (.string s)) (some (.string s))
  | bool (b : Bool) : Tied (some (.bool b)) (some (.bool b))
  | object (m n : List (String × Value)) : Tied (some (.object m)) (some (.object n))
  | array (m n : List Value) : Tied (some (.array m)) (some (.array n))

theorem Tied.of_kindRank_eq (hkind : kindRank a = kindRank b) (hwithin : compareAlike a b = .eq) :
    Tied a b := by
  rcases a with _ | (_ | x | m | s | xs | ms) <;> rcases b with _ | (_ | y | n | t | ys | ns) <;>
    first | (simp [kindRank] at hkind; done) | clear hkind
  · exact .absent
  · exact .null
  · obtain rfl := Std.LawfulEqOrd.eq_of_compare hwithin
    exact .bool x
  · exact .number (Binary64.rank_inj.1 (Int.compare_eq_eq.1 hwithin))
  · obtain rfl := Std.LawfulEqOrd.eq_of_compare hwithin
    exact .string s
  · exact .array xs ys
  · exact .object ms ns

/-- **Fields tie just if they are alike.** -/
theorem compareFields_eq_iff : compareFields a b = .eq ↔ Tied a b := by
  rw [compareFields, Ordering.then_eq_eq, Nat.compare_eq_eq]
  refine ⟨fun ⟨hkind, hwithin⟩ => .of_kindRank_eq hkind hwithin, fun h => ?_⟩
  cases h with
  | number h =>
    refine ⟨rfl, ?_⟩
    rw [compareAlike, h, Int.compare_eq_eq]
  | string s =>
    refine ⟨rfl, ?_⟩
    rw [compareAlike]
    exact Std.ReflCmp.compare_self
  | bool b =>
    refine ⟨rfl, ?_⟩
    rw [compareAlike]
    exact Std.ReflCmp.compare_self
  | absent => exact ⟨rfl, rfl⟩
  | null => exact ⟨rfl, rfl⟩
  | object m n => exact ⟨rfl, rfl⟩
  | array m n => exact ⟨rfl, rfl⟩

/-! ## Documents -/

theorem Direction.orient_eq_eq_iff {direction : Direction} {o : Ordering} :
    direction.orient o = .eq ↔ o = .eq := by
  cases direction <;> cases o <;> decide

/-- A comparison in a direction is lawful if the comparison is. -/
theorem transCmp_orient {α : Type} (cmp : α → α → Ordering) [Std.TransCmp cmp]
    (direction : Direction) : Std.TransCmp fun a b => direction.orient (cmp a b) := by
  cases direction with
  | ascending => exact inferInstanceAs (Std.TransCmp cmp)
  | descending =>
    -- to turn a comparison round is to swap what is compared
    have hswap : (fun a b => Direction.descending.orient (cmp a b)) = fun a b => cmp b a :=
      funext fun _ => funext fun _ => Std.OrientedCmp.eq_swap.symm
    rw [hswap]
    infer_instance

namespace SortKeys

/-- **The comparison by keys is lawful.** -/
instance transCmp_compareBy (keys : SortKeys) : Std.TransCmp keys.compareBy := by
  induction keys with
  | nil => exact { eq_swap := rfl, isLE_trans := fun h _ => h }
  | cons key rest ih =>
    obtain ⟨field, direction⟩ := key
    have hfield : Std.TransCmp fun a b : Value =>
        compareFields (a.member? field) (b.member? field) :=
      { eq_swap := Std.OrientedCmp.eq_swap, isLE_trans := Std.TransCmp.isLE_trans }
    have hkey := transCmp_orient (fun a b : Value =>
      compareFields (a.member? field) (b.member? field)) direction
    exact inferInstanceAs (Std.TransCmp (compareLex _ (compareBy rest)))

/-- The keys do not tell two documents apart. -/
def Ties (keys : SortKeys) (a b : Value) : Prop :=
  ∀ key ∈ keys, compareFields (a.member? key.1) (b.member? key.1) = .eq

instance (keys : SortKeys) (a b : Value) : Decidable (keys.Ties a b) :=
  inferInstanceAs (Decidable (∀ key ∈ keys, _))

/-- The first key that tells two documents apart puts the first of them before
the second. -/
def Before (keys : SortKeys) (a b : Value) : Prop :=
  ∃ earlier field direction later, keys = earlier ++ (field, direction) :: later ∧
    Ties earlier a b ∧ direction.orient (compareFields (a.member? field) (b.member? field)) = .lt

variable {keys rest : SortKeys} {key : String × Direction} {a b : Value}

theorem ties_nil (a b : Value) : Ties [] a b := fun _ h => absurd h List.not_mem_nil

theorem ties_cons_iff : Ties (key :: rest) a b ↔
    compareFields (a.member? key.1) (b.member? key.1) = .eq ∧ rest.Ties a b :=
  List.forall_mem_cons

theorem not_before_nil (a b : Value) : ¬ Before [] a b := by
  rintro ⟨earlier, field, direction, later, hkeys, -⟩
  exact absurd hkeys (List.append_ne_nil_of_right_ne_nil _ (List.cons_ne_nil _ _)).symm

/-- A key puts a document before another, or leaves it to the keys behind. -/
theorem before_cons_iff : Before (key :: rest) a b ↔
    key.2.orient (compareFields (a.member? key.1) (b.member? key.1)) = .lt ∨
      compareFields (a.member? key.1) (b.member? key.1) = .eq ∧ rest.Before a b := by
  constructor
  · rintro ⟨earlier, field, direction, later, hkeys, hties, hlt⟩
    cases earlier with
    | nil =>
      obtain ⟨rfl, rfl⟩ := List.cons.inj hkeys
      exact .inl hlt
    | cons first earlier =>
      obtain ⟨rfl, rfl⟩ := List.cons.inj hkeys
      obtain ⟨hfirst, hties⟩ := ties_cons_iff.1 hties
      exact .inr ⟨hfirst, earlier, field, direction, later, rfl, hties, hlt⟩
  · rintro (hlt | ⟨hfirst, earlier, field, direction, later, rfl, hties, hlt⟩)
    · exact ⟨[], key.1, key.2, rest, rfl, ties_nil a b, hlt⟩
    · exact ⟨key :: earlier, field, direction, later, rfl, ties_cons_iff.2 ⟨hfirst, hties⟩, hlt⟩

/-- **Documents compare as equal** just if no key tells them apart. -/
theorem compareBy_eq_eq_iff : keys.compareBy a b = .eq ↔ keys.Ties a b := by
  induction keys with
  | nil => exact iff_of_true rfl (ties_nil a b)
  | cons key rest ih =>
    rw [compareBy, Ordering.then_eq_eq, Direction.orient_eq_eq_iff, ih, ties_cons_iff]

/-- **A document compares as less** just if the first key that tells it apart
puts it first. -/
theorem compareBy_eq_lt_iff : keys.compareBy a b = .lt ↔ keys.Before a b := by
  induction keys with
  | nil => exact iff_of_false (nomatch ·) (not_before_nil a b)
  | cons key rest ih =>
    rw [compareBy, Ordering.then_eq_lt, Direction.orient_eq_eq_iff, ih, before_cons_iff]

/-- **Sorting relies on a lawful comparison.** The comparison of documents by
keys and the comparison of fields under it are total preorders on all documents
and fields. The former is decided by the first key that tells the documents
apart, in its direction; the latter ties what is alike and nothing else, and
has numbers in the order of their bit patterns. -/
theorem comparison_is_total_preorder (keys : SortKeys) :
    TotalPreorder keys.compareBy ∧
    (∀ a b, (keys.compareBy a b = .eq ↔ keys.Ties a b) ∧
      (keys.compareBy a b = .lt ↔ keys.Before a b)) ∧
    TotalPreorder compareFields ∧
    (∀ a b, compareFields a b = .eq ↔ Tied a b) ∧
    ∀ m n : Number, compareFields (some (.number m)) (some (.number n)) =
      compare m.toBinary64.signedBits n.toBinary64.signedBits :=
  ⟨.of_transCmp _, fun _ _ => ⟨compareBy_eq_eq_iff, compareBy_eq_lt_iff⟩, .of_transCmp _,
    fun _ _ => compareFields_eq_iff, fun m n => Binary64.compare_rank m.toBinary64 n.toBinary64⟩

/-- Of the zeros the negative one comes first. -/
example : compareFields (some (.number (.float (.zero true))))
    (some (.number (.float (.zero false)))) = .lt := by decide

end SortKeys

end DocumentStore
