import DocumentStore.Query.Command
import DocumentStore.Proofs.Integers
import Mathlib.Data.List.Perm.Subperm

/-!
# Equivalence — laws of the equalities

Structural equality goes down arrays item by item and looks every key of an object
up in the other. That an object has as many members as another, which has all of
them, is the same as having equal members, or none, under every key
(`Value.same_object_iff`): with as many keys, none of them twice, no key of the
other is left over. So structural equality is an equivalence of well-formed values,
by induction on them.

Strict equality is structural but for numbers. Loose equality is structural between
containers and the equality of primitive forms of all else. Both inherit their laws,
and hand them on to the commands that ask for them (`equality_laws`).
-/

namespace DocumentStore

/-! ## Numbers -/

namespace Binary64

variable {a b c : Binary64}

theorem compare?_swap (a b : Binary64) : b.compare? a = (a.compare? b).map Ordering.swap := by
  unfold compare?
  cases a.units? with
  | none => cases b.units? <;> rfl
  | some x =>
    cases b.units? with
    | none => rfl
    | some y => exact congrArg some Std.OrientedCmp.eq_swap

/-- Doubles are equal if they stand for the same number of units. -/
theorem equal_iff : a.equal b = true ↔ ∃ x, a.units? = some x ∧ b.units? = some x := by
  rw [equal, compare?, beq_iff_eq]
  cases a.units? with
  | none => simp
  | some x =>
    cases b.units? with
    | none => simp
    | some y => rw [Option.some.injEq, Int.compare_eq_eq]; simp [eq_comm]

theorem equal_symm (h : a.equal b = true) : b.equal a = true := by
  obtain ⟨x, ha, hb⟩ := equal_iff.1 h
  exact equal_iff.2 ⟨x, hb, ha⟩

theorem equal_comm (a b : Binary64) : a.equal b = b.equal a :=
  Bool.eq_iff_iff.2 ⟨equal_symm, equal_symm⟩

theorem equal_trans (h : a.equal b = true) (h' : b.equal c = true) : a.equal c = true := by
  obtain ⟨x, ha, hb⟩ := equal_iff.1 h
  obtain ⟨y, hb', hc⟩ := equal_iff.1 h'
  obtain rfl := Option.some.inj (hb.symm.trans hb')
  exact equal_iff.2 ⟨x, ha, hc⟩

end Binary64

namespace Number

variable {m n k : Number}

theorem same_refl (n : Number) : n.same n = true := by
  cases n <;> exact beq_self_eq_true _

theorem same_symm (h : m.same n = true) : n.same m = true := by
  cases m <;> cases n <;> first | exact h | exact BEq.symm h

theorem same_trans (h : m.same n = true) (h' : n.same k = true) : m.same k = true := by
  cases m <;> cases n <;> cases k <;> first | contradiction | exact BEq.trans h h'

/-- A number equals itself, for none is a NaN. -/
theorem equal_self (n : Number) : n.toBinary64.equal n.toBinary64 = true := by
  obtain ⟨x, hx⟩ := n.exists_double
  rw [Binary64.equal_self_iff, hx]
  exact (nomatch ·)

end Number

/-! ## Structural equality -/

/-- What has related values under every key, or none, has the same keys. -/
theorem Bindings.perm_keys_of_rel {α β : Type} {R : α → β → Prop} {m : Bindings α}
    {m' : Bindings β} (hd : Distinct m) (hd' : Distinct m')
    (h : ∀ k, Option.Rel R (get? m k) (get? m' k)) : (keys m).Perm (keys m') := by
  refine (List.perm_ext_iff_of_nodup hd hd').2 fun k => ?_
  have hrel := h k
  rw [← contains_iff, ← contains_iff, contains, contains]
  generalize get? m k = found, get? m' k = found' at hrel
  cases hrel with
  | some _ => exact Iff.rfl
  | none => exact Iff.rfl

namespace Value

variable {u v w : Value} {items items' : List Value} {m m' : Bindings Value}

theorem sameItems_iff :
    sameItems items items' = true ↔ List.Forall₂ (fun v w => v.same w = true) items items' := by
  induction items generalizing items' with
  | nil => cases items' <;> simp [sameItems]
  | cons v rest ih =>
    cases items' with
    | nil => simp [sameItems]
    | cons w rest' => simp [sameItems, ih]

theorem sameMembers_iff : sameMembers m m' = true ↔
    ∀ k v, (k, v) ∈ m → ∃ w, Bindings.get? m' k = some w ∧ v.same w = true := by
  induction m with
  | nil => simp [sameMembers]
  | cons e rest ih =>
    obtain ⟨k, v⟩ := e
    rw [sameMembers, Bool.and_eq_true, ih]
    constructor
    · rintro ⟨hfirst, hrest⟩ k' v' hmem
      rcases List.mem_cons.1 hmem with heq | hmem
      · cases heq
        cases hget : Bindings.get? m' k with
        | none => rw [hget] at hfirst; cases hfirst
        | some w => exact ⟨w, rfl, by rwa [hget] at hfirst⟩
      · exact hrest k' v' hmem
    · intro h
      obtain ⟨w, hget, hsame⟩ := h k v List.mem_cons_self
      exact ⟨by rw [hget]; exact hsame, fun k' v' hmem => h k' v' (List.mem_cons_of_mem _ hmem)⟩

/-- An array equals arrays only, item by item. -/
theorem same_array_iff : (array items).same v = true ↔
    ∃ items', v = array items' ∧ List.Forall₂ (fun v w => v.same w = true) items items' := by
  cases v with
  | array items' => rw [same, sameItems_iff]; simp
  | _ => simp [same]

/-- An object equals objects only, that are of its size and have its members. -/
theorem same_object_iff_found : (object m).same v = true ↔
    ∃ m', v = object m' ∧ m.length = m'.length ∧
      ∀ k v, (k, v) ∈ m → ∃ w, Bindings.get? m' k = some w ∧ v.same w = true := by
  cases v with
  | object m' => rw [same, Bool.and_eq_true, beq_iff_eq, sameMembers_iff]; simp
  | _ => simp [same]

/-- **Objects are equal** just if under every key they have equal members, or
none. -/
theorem same_object_iff (hd : Bindings.Distinct m) (hd' : Bindings.Distinct m') :
    (object m).same (object m') = true ↔
      ∀ k, Option.Rel (fun v w => v.same w = true) (Bindings.get? m k) (Bindings.get? m' k) := by
  rw [same_object_iff_found]
  constructor
  · rintro ⟨_, ⟨⟩, hlength, hfound⟩ k
    have hsub : Bindings.keys m ⊆ Bindings.keys m' := fun k hk => by
      obtain ⟨v, hv⟩ := Bindings.mem_keys_iff.1 hk
      obtain ⟨w, hw, -⟩ := hfound k v hv
      exact Bindings.mem_keys_iff.2 ⟨w, Bindings.mem_of_get? hw⟩
    -- with as many keys, none of the other is left over
    have hperm : (Bindings.keys m).Perm (Bindings.keys m') :=
      (List.Nodup.subperm hd hsub).perm_of_length_le (by simp [Bindings.keys, hlength])
    cases hv : Bindings.get? m k with
    | some v =>
      obtain ⟨w, hw, hsame⟩ := hfound k v (Bindings.mem_of_get? hv)
      rw [hw]
      exact .some hsame
    | none =>
      rw [Bindings.get?_eq_none_iff, hperm.mem_iff, ← Bindings.get?_eq_none_iff] at hv
      rw [hv]
      exact .none
  · intro h
    have hfound (k : String) (v : Value) (hv : (k, v) ∈ m) :
        ∃ w, Bindings.get? m' k = some w ∧ v.same w = true := by
      have hrel := h k
      rw [Bindings.get?_of_mem hd hv] at hrel
      generalize Bindings.get? m' k = found at hrel
      cases hrel with
      | some hsame => exact ⟨_, rfl, hsame⟩
    have hperm := Bindings.perm_keys_of_rel hd hd' h
    exact ⟨m', rfl, by simpa [Bindings.keys] using hperm.length_eq, hfound⟩

/-- **Structural equality is reflexive**, -/
theorem same_refl (hv : v.WellFormed) : v.same v = true := by
  induction v using Value.induction with
  | null => rfl
  | bool b => exact beq_self_eq_true b
  | number n => exact n.same_refl
  | string s => exact beq_self_eq_true s
  | array items ih =>
    rw [same, sameItems_iff, List.forall₂_same]
    exact fun v hmem => ih v hmem (itemsWellFormed_iff.1 hv v hmem)
  | object m ih =>
    refine same_object_iff_found.2 ⟨m, rfl, rfl, fun k v hmem => ?_⟩
    refine ⟨v, Bindings.get?_of_mem hv.1 hmem, ?_⟩
    exact ih k v hmem (membersWellFormed_iff.1 hv.2 k v hmem)

/-- symmetric, -/
theorem same_symm (hv : v.WellFormed) (hw : w.WellFormed) (h : v.same w = true) :
    w.same v = true := by
  induction v using Value.induction generalizing w with
  | null => cases w <;> exact h
  | bool a =>
    cases w with
    | bool b => exact BEq.symm h
    | _ => cases h
  | number m =>
    cases w with
    | number n => exact Number.same_symm h
    | _ => cases h
  | string s =>
    cases w with
    | string t => exact BEq.symm h
    | _ => cases h
  | array items ih =>
    obtain ⟨items', rfl, hitems⟩ := same_array_iff.1 h
    obtain ⟨hlength, hitems⟩ := List.forall₂_iff_get.1 hitems
    refine same_array_iff.2 ⟨items, rfl, List.forall₂_iff_get.2 ⟨hlength.symm, fun i hi hi' => ?_⟩⟩
    exact ih _ (List.get_mem _ _) (itemsWellFormed_iff.1 hv _ (List.get_mem _ _))
      (itemsWellFormed_iff.1 hw _ (List.get_mem _ _)) (hitems i hi' hi)
  | object m ih =>
    obtain ⟨m', rfl, -⟩ := same_object_iff_found.1 h
    rw [same_object_iff hv.1 hw.1] at h
    rw [same_object_iff hw.1 hv.1]
    intro k
    have hrel := h k
    have hmem (v : Value) (hget : Bindings.get? m k = some v) := Bindings.mem_of_get? hget
    have hmem' (w : Value) (hget : Bindings.get? m' k = some w) := Bindings.mem_of_get? hget
    generalize Bindings.get? m k = found, Bindings.get? m' k = found' at *
    cases hrel with
    | none => exact .none
    | @some v w hsame =>
      exact .some (ih k v (hmem v rfl) (membersWellFormed_iff.1 hv.2 k v (hmem v rfl))
        (membersWellFormed_iff.1 hw.2 k w (hmem' w rfl)) hsame)

/-- and transitive. -/
theorem same_trans (h : u.same v = true) (h' : v.same w = true) : u.same w = true := by
  induction u using Value.induction generalizing v w with
  | null =>
    cases v with
    | null => exact h'
    | _ => cases h
  | bool a =>
    cases v with
    | bool b =>
      obtain rfl := eq_of_beq h
      exact h'
    | _ => cases h
  | number m =>
    cases v with
    | number n =>
      cases w with
      | number k => exact Number.same_trans h h'
      | _ => cases h'
    | _ => cases h
  | string s =>
    cases v with
    | string t =>
      obtain rfl := eq_of_beq h
      exact h'
    | _ => cases h
  | array items ih =>
    obtain ⟨items', rfl, hitems⟩ := same_array_iff.1 h
    obtain ⟨items'', rfl, hitems'⟩ := same_array_iff.1 h'
    obtain ⟨hlength, hitems⟩ := List.forall₂_iff_get.1 hitems
    obtain ⟨hlength', hitems'⟩ := List.forall₂_iff_get.1 hitems'
    refine same_array_iff.2 ⟨items'', rfl,
      List.forall₂_iff_get.2 ⟨hlength.trans hlength', fun i hi hi' => ?_⟩⟩
    exact ih _ (List.get_mem _ _) (hitems i hi (hlength ▸ hi)) (hitems' i (hlength ▸ hi) hi')
  | object m ih =>
    obtain ⟨m', rfl, hlength, hfound⟩ := same_object_iff_found.1 h
    obtain ⟨m'', rfl, hlength', hfound'⟩ := same_object_iff_found.1 h'
    refine same_object_iff_found.2 ⟨m'', rfl, hlength.trans hlength', fun k u hmem => ?_⟩
    obtain ⟨v, hget, hsame⟩ := hfound k u hmem
    obtain ⟨w, hget', hsame'⟩ := hfound' k v (Bindings.mem_of_get? hget)
    exact ⟨w, hget', ih k u hmem hsame hsame'⟩

theorem same_comm (hv : v.WellFormed) (hw : w.WellFormed) : v.same w = w.same v :=
  Bool.eq_iff_iff.2 ⟨same_symm hv hw, same_symm hw hv⟩

end Value

/-! ## Strict equality -/

section

variable {a b c : Value}

/-- What equals a number strictly is a number of the same value. -/
theorem strictEq_number_iff {n : Number} : strictEq (some (.number n)) b = true ↔
    ∃ k, b = .number k ∧ n.toBinary64.equal k.toBinary64 = true := by
  cases b with
  | number k => rw [strictEq]; simp
  | _ => simp [strictEq, Value.same]

theorem strictEq_of_not_number (ha : ∀ n, a ≠ .number n) (b : Value) :
    strictEq (some a) b = a.same b := by
  cases a with
  | number n => exact absurd rfl (ha n)
  | _ => rfl

theorem strictEq_self (ha : a.WellFormed) : strictEq (some a) a = true := by
  cases a with
  | number n => exact n.equal_self
  | _ => exact Value.same_refl ha

theorem strictEq_symm (ha : a.WellFormed) (hb : b.WellFormed) (h : strictEq (some a) b = true) :
    strictEq (some b) a = true := by
  cases a with
  | number m =>
    obtain ⟨n, rfl, h⟩ := strictEq_number_iff.1 h
    exact Binary64.equal_symm h
  | _ =>
    have hsame := Value.same_symm ha hb h
    rwa [strictEq_of_not_number]
    rintro n rfl
    cases hsame

theorem strictEq_trans (h : strictEq (some a) b = true) (h' : strictEq (some b) c = true) :
    strictEq (some a) c = true := by
  cases a with
  | number m =>
    obtain ⟨n, rfl, h⟩ := strictEq_number_iff.1 h
    obtain ⟨k, rfl, h'⟩ := strictEq_number_iff.1 h'
    exact Binary64.equal_trans h h'
  | _ =>
    refine Value.same_trans h ?_
    rwa [strictEq_of_not_number] at h'
    rintro n rfl
    cases h

end

/-! ## Loose equality -/

/-- What is not missing compares as texts, as booleans or as numbers, each way
round the same. -/
theorem Primitive.looseEq_comm (a b : Primitive) : a.looseEq b = b.looseEq a := by
  unfold looseEq
  rw [Bool.or_comm, Bool.and_comm]
  split
  · rfl
  · cases a with
    | text s =>
      cases b with
      | text t => exact BEq.comm
      | _ => exact Binary64.equal_comm _ _
    | bool x =>
      cases b with
      | bool y => exact BEq.comm
      | _ => exact Binary64.equal_comm _ _
    | _ => cases b <;> exact Binary64.equal_comm _ _

section

variable {a b : Option Value}

/-- A primitive form equals itself, for no number is a NaN. -/
theorem Primitive.looseEq_ofValue_self (a : Option Value) :
    (Primitive.ofValue a).looseEq (.ofValue a) = true := by
  cases a with
  | none => rfl
  | some v =>
    cases v with
    | null => rfl
    | bool b => exact beq_self_eq_true b
    | number n => exact n.equal_self
    | string s => exact beq_self_eq_true s
    | array items => exact beq_self_eq_true (Value.array items).plainText
    | object m => exact beq_self_eq_true (Value.object m).plainText

theorem looseEq_self (ha : ∀ v ∈ a, v.WellFormed) : looseEq a a = true := by
  cases a with
  | none => rfl
  | some v =>
    rw [looseEq]
    split
    · exact Value.same_refl (ha v rfl)
    · exact Primitive.looseEq_ofValue_self _

theorem looseEq_comm (ha : ∀ v ∈ a, v.WellFormed) (hb : ∀ v ∈ b, v.WellFormed) :
    looseEq a b = looseEq b a := by
  cases a with
  | none => cases b <;> exact Primitive.looseEq_comm _ _
  | some v =>
    cases b with
    | none => exact Primitive.looseEq_comm _ _
    | some w =>
      rw [looseEq, looseEq, Bool.and_comm, Value.same_comm (ha v rfl) (hb w rfl),
        Primitive.looseEq_comm]

/-- **What is equal strictly is equal loosely.** -/
theorem looseEq_of_strictEq {v : Value} (h : strictEq a v = true) : looseEq a (some v) = true := by
  cases a with
  | none => cases h
  | some w =>
    cases w with
    | number m =>
      obtain ⟨n, rfl, h⟩ := strictEq_number_iff.1 h
      exact h
    | null =>
      cases v with
      | null => rfl
      | _ => cases h
    | bool b =>
      cases v with
      | bool b' => exact h
      | _ => cases h
    | string s =>
      cases v with
      | string t => exact h
      | _ => cases h
    | array items =>
      obtain ⟨items', rfl, -⟩ := Value.same_array_iff.1 h
      exact h
    | object m =>
      obtain ⟨m', rfl, -⟩ := Value.same_object_iff_found.1 h
      exact h

end

/-! ## The relational comparison -/

theorem compareRelational?_swap (a b : Value) :
    compareRelational? (some b) a = (compareRelational? (some a) b).map Ordering.swap := by
  unfold compareRelational?
  cases Primitive.ofValue (some a) with
  | text s =>
    cases Primitive.ofValue (some b) with
    | text t => exact congrArg some Std.OrientedCmp.eq_swap
    | _ => exact Binary64.compare?_swap _ _
  | _ => cases Primitive.ofValue (some b) <;> exact Binary64.compare?_swap _ _

/-- Relations are mirrored with their operands. -/
theorem Command.test_mirrored (a b : Value) :
    (Command.lt b).test (some a) = (Command.gt a).test (some b) ∧
      (Command.lte b).test (some a) = (Command.gte a).test (some b) := by
  simp only [test, compareRelational?_swap a b]
  cases compareRelational? (some a) b with
  | none => exact ⟨rfl, rfl⟩
  | some o => cases o <;> exact ⟨rfl, rfl⟩

/-! ## The laws -/

/-- **Laws of the equalities.** Strict equality is an equivalence of the values that
are there, under which objects are equal just if under every key they have equal
members, or none. Loose equality is reflexive and symmetric on all fields, the
absent one included, and holds wherever the strict one does. So membership in a
list accepts nothing that is equal to no member, and what a member accepts
is not accepted as unequal to it. The relational comparison is turned round with
its operands, and undefined either way or neither. -/
theorem equality_laws :
    (∀ a : Value, a.WellFormed → strictEq (some a) a = true) ∧
    (∀ a b : Value, a.WellFormed → b.WellFormed → strictEq (some a) b = strictEq (some b) a) ∧
    (∀ a b c : Value, strictEq (some a) b = true → strictEq (some b) c = true →
      strictEq (some a) c = true) ∧
    (∀ m n : Bindings Value, m.Distinct → n.Distinct →
      (strictEq (some (.object m)) (.object n) = true ↔
        ∀ k, Option.Rel (fun v w => v.same w = true) (m.get? k) (n.get? k))) ∧
    (∀ a : Option Value, (∀ v ∈ a, v.WellFormed) → looseEq a a = true) ∧
    (∀ a b : Option Value, (∀ v ∈ a, v.WellFormed) → (∀ v ∈ b, v.WellFormed) →
      looseEq a b = looseEq b a) ∧
    (∀ (a : Option Value) (v : Value), strictEq a v = true → looseEq a (some v) = true) ∧
    (∀ (a : Option Value) (vs : List Value), (∀ v ∈ vs, (Command.eq v).test a = false) →
      (Command.oneOf vs).test a = false) ∧
    (∀ (a : Option Value) (v : Value), (Command.oneOf [v]).test a = true →
      (Command.neq v).test a = false) ∧
    ∀ a b : Value,
      compareRelational? (some b) a = (compareRelational? (some a) b).map Ordering.swap ∧
      (compareRelational? (some a) b = none ↔ compareRelational? (some b) a = none) ∧
      (Command.lt b).test (some a) = (Command.gt a).test (some b) ∧
      (Command.lte b).test (some a) = (Command.gte a).test (some b) := by
  refine ⟨fun a => strictEq_self, fun a b ha hb => ?_, fun a b c => strictEq_trans,
    fun m n => Value.same_object_iff, fun a => looseEq_self, fun a b => looseEq_comm,
    fun a v => looseEq_of_strictEq, fun a vs h => ?_, fun a v h => ?_, fun a b => ?_⟩
  · exact Bool.eq_iff_iff.2 ⟨strictEq_symm ha hb, strictEq_symm hb ha⟩
  · refine Bool.eq_false_iff.2 fun hmember => ?_
    obtain ⟨v, hv, hequal⟩ := List.any_eq_true.1 hmember
    exact Bool.eq_false_iff.1 (h v hv) (looseEq_of_strictEq hequal)
  · obtain ⟨w, hw, hequal⟩ := List.any_eq_true.1 h
    obtain rfl := List.mem_singleton.1 hw
    rw [Command.test, looseEq_of_strictEq hequal]
    rfl
  · refine ⟨compareRelational?_swap a b, ?_, Command.test_mirrored a b⟩
    rw [compareRelational?_swap a b, Option.map_eq_none_iff]

/-- Loose equality is not transitive: two texts may be of one number. -/
example : looseEq (some (.string "1")) (some (.bool true)) = true ∧
    looseEq (some (.bool true)) (some (.string "1.0")) = true ∧
    looseEq (some (.string "1")) (some (.string "1.0")) = false := by decide +kernel

/-- An object in an array, and the same with its keys in another order. -/
theorem equality_laws_reordered :
    let a : Value := .array [.object [("x", .bool true), ("y", .array [.null])], .string ""]
    let b : Value := .array [.object [("y", .array [.null]), ("x", .bool true)], .string ""]
    a.WellFormed ∧ b.WellFormed ∧ strictEq (some a) b = true ∧ strictEq (some b) a = true ∧
      looseEq (some a) (some b) = true ∧ looseEq (some b) (some a) = true ∧
      (Command.oneOf [b]).test (some a) = true ∧ (Command.neq b).test (some a) = false := by
  intro a b
  have ha : a.WellFormed :=
    ⟨⟨by decide, trivial, ⟨trivial, trivial⟩, trivial⟩, trivial, trivial⟩
  have hb : b.WellFormed :=
    ⟨⟨by decide, ⟨trivial, trivial⟩, trivial, trivial⟩, trivial, trivial⟩
  have hstrict : strictEq (some a) b = true := by decide
  have hmember : (Command.oneOf [b]).test (some a) = true := by decide
  obtain ⟨-, hsymm, -, -, -, hcomm, hloose, -, hneq, -⟩ := equality_laws
  have hequal : looseEq (some a) (some b) = true := hloose _ _ hstrict
  refine ⟨ha, hb, hstrict, (hsymm a b ha hb).symm.trans hstrict, hequal, ?_, hmember,
    hneq _ _ hmember⟩
  rw [← hcomm (some a) (some b) (by rintro v ⟨⟩; exact ha) (by rintro v ⟨⟩; exact hb)]
  exact hequal

end DocumentStore
