import DocumentStore.Proofs.Meaning
import DocumentStore.Proofs.Equivalence
import DocumentStore.Proofs.Paging

/-!
# Reordering — the order of keys does not show in a query

Values are variants of each other that differ in the order of keys, of objects at any
depth, and in nothing else (`Value.Reordered`). Of an object a query sees what stands
under a key and how many keys there are, and as a text all objects are alike. So a
field and its variant pass the same commands and criteria, for operands that are
variants too, and take the same place in the order of fields.

What holds of one document holds of what views see: where two of them see variants of
the same documents in the same order, in one run or in two, they select and sort alike
(`Session.queries_ignore_key_order`).
-/

namespace DocumentStore

namespace Value

/-- **Variants** that differ in the order of keys only. No object in them has a key
twice. -/
inductive Reordered : Value → Value → Prop
  | null : Reordered .null .null
  | bool (b : Bool) : Reordered (.bool b) (.bool b)
  | number (n : Number) : Reordered (.number n) (.number n)
  | string (s : String) : Reordered (.string s) (.string s)
  | array {items items' : List Value} (length : items.length = items'.length)
      (item : ∀ i (h : i < items.length) (h' : i < items'.length),
        Reordered (items.get ⟨i, h⟩) (items'.get ⟨i, h'⟩)) :
      Reordered (.array items) (.array items')
  | object {m m' : Bindings Value} (distinct : Bindings.Distinct m)
      (keys : (Bindings.keys m).Perm (Bindings.keys m'))
      (member : ∀ k v w, (k, v) ∈ m → (k, w) ∈ m' → Reordered v w) :
      Reordered (.object m) (.object m')

namespace Reordered

variable {v v' w w' : Value} {items items' : List Value} {m m' : Bindings Value}

theorem refl (hv : v.WellFormed) : v.Reordered v := by
  induction v using Value.induction with
  | null => exact .null
  | bool b => exact .bool b
  | number n => exact .number n
  | string s => exact .string s
  | array items ih =>
    have hitems := itemsWellFormed_iff.1 hv
    exact .array rfl fun i h _ => ih _ (List.get_mem _ _) (hitems _ (List.get_mem _ _))
  | object m ih =>
    refine .object hv.1 (.refl _) fun k v w hvm hwm => ?_
    obtain rfl := hv.1.eq_of_mem hvm hwm
    exact ih k v hvm (membersWellFormed_iff.1 hv.2 k v hvm)

theorem symm (h : v.Reordered w) : w.Reordered v := by
  induction h with
  | null => exact .null
  | bool b => exact .bool b
  | number n => exact .number n
  | string s => exact .string s
  | array length item ih => exact .array length.symm fun i h h' => ih i h' h
  | object distinct keys member ih =>
    exact .object (keys.nodup_iff.1 distinct) keys.symm fun k w v hw hv => ih k v w hv hw

/-- Variants of an array have variants of its items. -/
theorem array_iff : (Value.array items).Reordered v ↔
    ∃ items', v = .array items' ∧ List.Forall₂ Reordered items items' := by
  constructor
  · rintro (_ | _ | _ | _ | ⟨length, item⟩ | _)
    exact ⟨_, rfl, List.forall₂_iff_get.2 ⟨length, item⟩⟩
  · rintro ⟨items', rfl, h⟩
    obtain ⟨length, item⟩ := List.forall₂_iff_get.1 h
    exact .array length item

theorem distinct (h : (Value.object m).Reordered (.object m')) : Bindings.Distinct m := by
  obtain _ | _ | _ | _ | _ | ⟨distinct, -, -⟩ := h
  exact distinct

theorem length_eq (h : (Value.object m).Reordered (.object m')) : m.length = m'.length := by
  obtain _ | _ | _ | _ | _ | ⟨-, keys, -⟩ := h
  simpa [Bindings.keys] using keys.length_eq

/-- Each member of an object has a variant under its key. -/
theorem exists_member (h : (Value.object m).Reordered (.object m')) {k : String}
    (hv : (k, v) ∈ m) : ∃ w, (k, w) ∈ m' ∧ v.Reordered w := by
  obtain _ | _ | _ | _ | _ | ⟨-, keys, member⟩ := h
  obtain ⟨w, hw⟩ := Bindings.mem_keys_iff.1 (keys.mem_iff.1 (Bindings.mem_keys_iff.2 ⟨v, hv⟩))
  exact ⟨w, hw, member k v w hv hw⟩

/-- **Under every key**, variants of an object have variants, or nothing. -/
theorem get? (h : (Value.object m).Reordered (.object m')) (k : String) :
    Option.Rel Reordered (Bindings.get? m k) (Bindings.get? m' k) := by
  cases hv : Bindings.get? m k with
  | some v =>
    obtain ⟨w, hw, hvw⟩ := h.exists_member (Bindings.mem_of_get? hv)
    rw [Bindings.get?_of_mem h.symm.distinct hw]
    exact .some hvw
  | none =>
    cases hw : Bindings.get? m' k with
    | none => exact .none
    | some w =>
      obtain ⟨v, hv', -⟩ := h.symm.exists_member (Bindings.mem_of_get? hw)
      rw [Bindings.get?_of_mem h.distinct hv'] at hv
      cases hv

/-- What has variants under every key, or nothing, is a variant. -/
theorem of_get? (hd : Bindings.Distinct m) (hd' : Bindings.Distinct m')
    (h : ∀ k, Option.Rel Reordered (Bindings.get? m k) (Bindings.get? m' k)) :
    (Value.object m).Reordered (.object m') := by
  refine .object hd (Bindings.perm_keys_of_rel hd hd' h) fun k v w hv hw => ?_
  have hrel := h k
  rw [Bindings.get?_of_mem hd hv, Bindings.get?_of_mem hd' hw] at hrel
  cases hrel with
  | some hvw => exact hvw

/-- The members of an object in another order are a variant of it. -/
theorem of_perm (hm : (Value.object m).WellFormed) (h : m.Perm m') :
    (Value.object m).Reordered (.object m') := by
  refine .object hm.1 (h.map _) fun k v w hv hw => ?_
  obtain rfl := hm.1.eq_of_mem hv (h.mem_iff.2 hw)
  exact refl (membersWellFormed_iff.1 hm.2 k v hv)

/-! ### What is seen of a value -/

theorem member? (h : v.Reordered w) (k : String) :
    Option.Rel Reordered (v.member? k) (w.member? k) := by
  cases h with
  | object distinct keys member => exact get? (.object distinct keys member) k
  | _ => exact .none

theorem isContainer_eq (h : v.Reordered w) : v.isContainer = w.isContainer := by
  cases h <;> rfl

/-- **Variants are structurally equal**, -/
theorem same (h : v.Reordered w) : v.same w = true := by
  induction h with
  | null => rfl
  | bool b => exact beq_self_eq_true b
  | number n => exact n.same_refl
  | string s => exact beq_self_eq_true s
  | array length item ih => exact same_array_iff.2 ⟨_, rfl, List.forall₂_iff_get.2 ⟨length, ih⟩⟩
  | @object m m' distinct keys member ih =>
    have h : (Value.object m).Reordered (.object m') := .object distinct keys member
    refine same_object_iff_found.2 ⟨m', rfl, h.length_eq, fun k v hv => ?_⟩
    obtain ⟨w, hw, -⟩ := h.exists_member hv
    exact ⟨w, Bindings.get?_of_mem h.symm.distinct hw, ih k v w hv hw⟩

/-- and equal the same values. -/
theorem same_eq (hv : v.Reordered v') (hw : w.Reordered w') : v.same w = v'.same w' := by
  rw [Bool.eq_iff_iff]
  constructor
  · exact fun h => same_trans hv.symm.same (same_trans h hw.same)
  · exact fun h => same_trans hv.same (same_trans h hw.symm.same)

/-- **Variants have one text**: where they differ, objects have a fixed one. -/
theorem plainText_eq (h : v.Reordered w) : v.plainText = w.plainText := by
  induction v using Value.induction generalizing w with
  | array items ih =>
    obtain ⟨items', rfl, hitems⟩ := array_iff.1 h
    clear h
    suffices htexts : itemTexts items = itemTexts items' by rw [plainText, plainText, htexts]
    induction hitems with
    | nil => rfl
    | @cons v w rest rest' hvw hrest ihrest =>
      have htexts := ihrest fun v hv w hvw => ih v (List.mem_cons_of_mem _ hv) hvw
      have htext := ih v List.mem_cons_self hvw
      -- an item that is null has no text in either
      cases hvw with
      | null => exact congrArg ("" :: ·) htexts
      | _ => exact congrArg₂ List.cons htext htexts
  | _ =>
    cases h
    rfl

end Reordered

end Value

/-! ## Fields -/

section

open Value (Reordered)

variable {a a' b b' : Option Value} {v v' : Value}

/-- Variants have one primitive form, -/
theorem Primitive.ofValue_reordered (h : Option.Rel Reordered a a') : ofValue a = ofValue a' := by
  cases h with
  | none => rfl
  | some h =>
    have htext := h.plainText_eq
    cases h with
    | array length item => exact congrArg Primitive.text htext
    | _ => rfl

/-- so that they are equal to the same values loosely -/
theorem looseEq_reordered (ha : Option.Rel Reordered a a') (hb : Option.Rel Reordered b b') :
    looseEq a b = looseEq a' b' := by
  have hforms : (Primitive.ofValue a).looseEq (.ofValue b) =
      (Primitive.ofValue a').looseEq (.ofValue b') := by
    rw [Primitive.ofValue_reordered ha, Primitive.ofValue_reordered hb]
  cases ha with
  | none => exact hforms
  | some ha =>
    cases hb with
    | none => exact hforms
    | some hb => rw [looseEq, looseEq, ha.isContainer_eq, hb.isContainer_eq, ha.same_eq hb, hforms]

/-- and strictly, -/
theorem strictEq_reordered (ha : Option.Rel Reordered a a') (hv : v.Reordered v') :
    strictEq a v = strictEq a' v' := by
  cases ha with
  | none => rfl
  | some ha =>
    have hsame := ha.same_eq hv
    cases ha with
    | number n =>
      cases hv with
      | number k => rfl
      | _ => exact hsame
    | _ => exact hsame

/-- compare with them alike, -/
theorem compareRelational?_reordered (ha : Option.Rel Reordered a a') (hv : v.Reordered v') :
    compareRelational? a v = compareRelational? a' v' := by
  rw [compareRelational?, compareRelational?, Primitive.ofValue_reordered ha,
    Primitive.ofValue_reordered (.some hv)]

theorem Command.isPresent_reordered (h : Option.Rel Reordered a a') :
    isPresent a = isPresent a' := by
  cases h with
  | none => rfl
  | some h => cases h <;> rfl

/-- and take one place in the order of fields: two objects tie, and so do two
arrays. -/
theorem compareFields_reordered (ha : Option.Rel Reordered a a')
    (hb : Option.Rel Reordered b b') : compareFields a b = compareFields a' b' := by
  have hkind {a a' : Option Value} (h : Option.Rel Reordered a a') : kindRank a = kindRank a' := by
    cases h with
    | none => rfl
    | some h => cases h <;> rfl
  have halike : compareAlike a b = compareAlike a' b' := by
    cases ha with
    | none => cases hb <;> rfl
    | some ha =>
      cases hb with
      | none => cases ha <;> rfl
      | some hb => cases ha <;> cases hb <;> rfl
  rw [compareFields, compareFields, hkind ha, hkind hb, halike]

end

/-! ## Commands, criteria and filters -/

/-- **Commands with variants as operands.** -/
inductive Command.Reordered : Command → Command → Prop
  | eq {v w : Value} (h : v.Reordered w) : Reordered (.eq v) (.eq w)
  | neq {v w : Value} (h : v.Reordered w) : Reordered (.neq v) (.neq w)
  | lt {v w : Value} (h : v.Reordered w) : Reordered (.lt v) (.lt w)
  | lte {v w : Value} (h : v.Reordered w) : Reordered (.lte v) (.lte w)
  | gt {v w : Value} (h : v.Reordered w) : Reordered (.gt v) (.gt w)
  | gte {v w : Value} (h : v.Reordered w) : Reordered (.gte v) (.gte w)
  | oneOf {vs ws : List Value} (h : List.Forall₂ Value.Reordered vs ws) :
      Reordered (.oneOf vs) (.oneOf ws)
  | noneOf {vs ws : List Value} (h : List.Forall₂ Value.Reordered vs ws) :
      Reordered (.noneOf vs) (.noneOf ws)
  | exists (flag : Bool) : Reordered (.exists flag) (.exists flag)
  | and {c d c' d' : Command} (h : Reordered c c') (h' : Reordered d d') :
      Reordered (.and c d) (.and c' d')
  | or {c d c' d' : Command} (h : Reordered c c') (h' : Reordered d d') :
      Reordered (.or c d) (.or c' d')

/-- **Criteria with variants as operands.** -/
inductive Criterion.Reordered : Criterion → Criterion → Prop
  | literal {v w : Value} (h : v.Reordered w) : Reordered (.literal v) (.literal w)
  | command {c d : Command} (h : c.Reordered d) : Reordered (.command c) (.command d)
  | pattern (p : Pattern) : Reordered (.pattern p) (.pattern p)

/-- **Filters with variants as operands.** Each criterion has a counterpart on the same
field, in whatever place, and each alternative has one in its own place. -/
inductive Filter.Reordered : Filter → Filter → Prop
  | fields {cs cs' : List (String × Criterion)}
      (h : ∀ name c, (name, c) ∈ cs → ∃ c', (name, c') ∈ cs' ∧ c.Reordered c')
      (h' : ∀ name c', (name, c') ∈ cs' → ∃ c, (name, c) ∈ cs ∧ c.Reordered c') :
      Reordered (.fields cs) (.fields cs')
  | any {fs fs' : List Filter} (length : fs.length = fs'.length)
      (alternative : ∀ i (h : i < fs.length) (h' : i < fs'.length),
        Reordered (fs.get ⟨i, h⟩) (fs'.get ⟨i, h'⟩)) :
      Reordered (.any fs) (.any fs')

theorem Filter.Reordered.of_forall₂ {fs gs : List Filter} (h : List.Forall₂ Reordered fs gs) :
    Reordered (.any fs) (.any gs) :=
  .any h.length_eq h.get

/-- Documents with the same fields, or variants of them, in whatever order. -/
def Document.Reordered (doc doc' : Document) : Prop :=
  (Value.object doc).Reordered (.object doc')

section

variable {a a' : Option Value} {id : String} {doc doc' : Document}

theorem Command.Reordered.any_strictEq {vs ws : List Value} (ha : Option.Rel Value.Reordered a a')
    (h : List.Forall₂ Value.Reordered vs ws) : vs.any (strictEq a) = ws.any (strictEq a') := by
  induction h with
  | nil => rfl
  | cons hv hrest ih => rw [List.any_cons, List.any_cons, strictEq_reordered ha hv, ih]

/-- **A command does not see the order of keys**, -/
theorem Command.Reordered.test_eq {c d : Command} (h : c.Reordered d)
    (ha : Option.Rel Value.Reordered a a') : c.test a = d.test a' := by
  induction h with
  | eq h => exact looseEq_reordered ha (.some h)
  | neq h => rw [test, test, looseEq_reordered ha (.some h)]
  | lt h => rw [test, test, compareRelational?_reordered ha h]
  | lte h => rw [test, test, compareRelational?_reordered ha h]
  | gt h => rw [test, test, compareRelational?_reordered ha h]
  | gte h => rw [test, test, compareRelational?_reordered ha h]
  | oneOf h => exact any_strictEq ha h
  | noneOf h => rw [test, test, any_strictEq ha h]
  | «exists» flag => rw [test, test, isPresent_reordered ha]
  | and h h' ih ih' => rw [test, test, ih, ih']
  | or h h' ih ih' => rw [test, test, ih, ih']

/-- nor does a criterion -/
theorem Criterion.Reordered.test_eq {c d : Criterion} (h : c.Reordered d)
    (ha : Option.Rel Value.Reordered a a') : c.test a = d.test a' := by
  cases h with
  | literal h => exact looseEq_reordered ha (.some h)
  | command h => exact h.test_eq ha
  | pattern p =>
    cases ha with
    | none => rfl
    | some ha => rw [test, test, ha.plainText_eq]

theorem Document.Reordered.fieldOf (h : doc.Reordered doc') (id name : String) :
    Option.Rel Value.Reordered (Filter.fieldOf id doc name) (Filter.fieldOf id doc' name) := by
  unfold Filter.fieldOf
  split
  · exact .some (.string id)
  · exact h.get? name

/-- nor a filter. -/
theorem Filter.Reordered.test_eq {f g : Filter} (h : f.Reordered g) (hdoc : doc.Reordered doc')
    (id : String) : f.test id doc = g.test id doc' := by
  induction h with
  | fields h h' =>
    rw [test, test, Bool.eq_iff_iff, List.all_eq_true, List.all_eq_true]
    constructor
    · rintro hpasses ⟨name, c'⟩ hc'
      obtain ⟨c, hc, hvariant⟩ := h' name c' hc'
      exact (hvariant.test_eq (hdoc.fieldOf id name)).symm.trans (hpasses (name, c) hc)
    · rintro hpasses ⟨name, c⟩ hc
      obtain ⟨c', hc', hvariant⟩ := h name c hc
      exact (hvariant.test_eq (hdoc.fieldOf id name)).trans (hpasses (name, c') hc')
  | @any fs fs' length alternative ih =>
    have hfs : List.Forall₂ (fun f g => test id doc f = test id doc' g) fs fs' :=
      List.forall₂_iff_get.2 ⟨length, ih⟩
    clear length alternative ih
    rw [test, test]
    induction hfs with
    | nil => rfl
    | cons h hrest ihrest => rw [testAny, testAny, h, ihrest]

/-- What a variant of a marker holds are variants of the alternatives. -/
theorem Marker.reordered {m m' : Bindings Value} {alternatives : List Value}
    (h : (Value.object m).Reordered (.object m')) (hm : Marker m alternatives) :
    ∃ alternatives', Marker m' alternatives' ∧
      List.Forall₂ Value.Reordered alternatives alternatives' := by
  have htype := h.get? "type"
  have harr := h.get? "arr"
  rw [hm.type] at htype
  rw [hm.arr] at harr
  generalize htype' : Bindings.get? m' "type" = type at htype
  generalize harr' : Bindings.get? m' "arr" = arr at harr
  obtain ⟨⟨⟩⟩ := htype
  cases harr with
  | some harr =>
    obtain ⟨alternatives', rfl, hitems⟩ := Value.Reordered.array_iff.1 harr
    exact ⟨alternatives', ⟨h.length_eq ▸ hm.length, htype', harr'⟩, hitems⟩

namespace Filter

/-- Several values are read as variants if each is. -/
theorem ofValues?_reordered {vs ws : List Value} {fs : List Filter}
    (h : List.Forall₂ Value.Reordered vs ws)
    (heach : ∀ v ∈ vs, ∀ w f, v.Reordered w → ofValue? v = .ok f →
      ∃ g, ofValue? w = .ok g ∧ f.Reordered g) (hfs : ofValues? vs = .ok fs) :
    ∃ gs, ofValues? ws = .ok gs ∧ List.Forall₂ Filter.Reordered fs gs := by
  induction h generalizing fs with
  | nil =>
    cases hfs
    exact ⟨[], rfl, .nil⟩
  | @cons v w vs ws hvw hrest ih =>
    cases hv : ofValue? v with
    | error e =>
      rw [ofValues?_cons_error hv] at hfs
      cases hfs
    | ok f =>
      rw [ofValues?_cons_ok hv] at hfs
      obtain ⟨rest, hread, rfl⟩ := map_eq_ok.1 hfs
      obtain ⟨g, hw, hfg⟩ := heach v List.mem_cons_self w f hvw hv
      obtain ⟨gs, hgs, hfilters⟩ := ih (fun v hv => heach v (List.mem_cons_of_mem _ hv)) hread
      exact ⟨g :: gs, by rw [ofValues?_cons_ok hw, hgs]; rfl, .cons hfg hfilters⟩

/-- **A filter read from a value** has the filter read from a variant as a variant. -/
theorem ofValue?_reordered {v w : Value} {f : Filter} (h : v.Reordered w)
    (hf : ofValue? v = .ok f) : ∃ g, ofValue? w = .ok g ∧ f.Reordered g := by
  induction v using Marker.induction generalizing w f with
  | other v hv =>
    rw [ofValue?_other hv] at hf
    cases hf
  | plain m hm =>
    obtain ⟨m', rfl⟩ : ∃ m', w = .object m' := by cases h; exact ⟨_, rfl⟩
    have hm' (alternatives : List Value) : ¬ Marker m' alternatives := fun hmarker => by
      obtain ⟨alternatives', hmarker, -⟩ := hmarker.reordered h.symm
      exact hm alternatives' hmarker
    rw [ofValue?_plain hm, Except.ok.injEq] at hf
    subst hf
    refine ⟨_, ofValue?_plain hm', .fields ?_ ?_⟩
    · intro name c hc
      obtain ⟨⟨k, v⟩, hv, ⟨⟩⟩ := List.mem_map.1 hc
      obtain ⟨w, hw, hvw⟩ := h.exists_member hv
      exact ⟨.literal w, List.mem_map.2 ⟨(name, w), hw, rfl⟩, .literal hvw⟩
    · intro name c' hc'
      obtain ⟨⟨k, w⟩, hw, ⟨⟩⟩ := List.mem_map.1 hc'
      obtain ⟨v, hv, hwv⟩ := h.symm.exists_member hw
      exact ⟨.literal v, List.mem_map.2 ⟨(name, v), hv, rfl⟩, .literal hwv.symm⟩
  | marker m alternatives hm ih =>
    obtain ⟨m', rfl⟩ : ∃ m', w = .object m' := by cases h; exact ⟨_, rfl⟩
    obtain ⟨alternatives', hm', hvariants⟩ := hm.reordered h
    rw [ofValue?_marker hm] at hf
    obtain ⟨fs, hfs, rfl⟩ := map_eq_ok.1 hf
    obtain ⟨gs, hgs, hfilters⟩ := ofValues?_reordered hvariants
      (fun v hv w f => ih v hv) hfs
    exact ⟨.any gs, by rw [ofValue?_marker hm', hgs]; rfl, .of_forall₂ hfilters⟩

end Filter

end

/-! ## Sorting -/

/-- Sorting by comparisons that agree on related items keeps the items related. -/
theorem forall₂_mergeSort {α β : Type} {R : α → β → Prop} {l : List α} {l' : List β}
    {r : α → α → Bool} {s : β → β → Bool} (h : List.Forall₂ R l l')
    (hrs : ∀ a a' b b', R a a' → R b b' → r a b = s a' b') :
    List.Forall₂ R (l.mergeSort r) (l'.mergeSort s) := by
  -- both are what sorting the pairs gives
  have hpairs (p : α × β) (hp : p ∈ l.zip l') : R p.1 p.2 := List.forall₂_zip h hp
  let t (p q : α × β) : Bool := r p.1 q.1
  have hleft : ((l.zip l').mergeSort t).map Prod.fst = l.mergeSort r := by
    rw [List.map_mergeSort (s := r) fun _ _ _ _ => rfl, List.map_fst_zip h.length_eq.le]
  have hright : ((l.zip l').mergeSort t).map Prod.snd = l'.mergeSort s := by
    rw [List.map_mergeSort (s := s) fun p hp q hq => hrs _ _ _ _ (hpairs p hp) (hpairs q hq),
      List.map_snd_zip h.length_eq.ge]
  rw [← hleft, ← hright, List.forall₂_map_left_iff, List.forall₂_map_right_iff, List.forall₂_same]
  exact fun p hp => hpairs p (List.mem_mergeSort.1 hp)

namespace SortKeys

theorem compareBy_reordered {a a' b b' : Value} (keys : SortKeys) (ha : a.Reordered a')
    (hb : b.Reordered b') : keys.compareBy a b = keys.compareBy a' b' := by
  induction keys with
  | nil => rfl
  | cons key rest ih =>
    obtain ⟨field, direction⟩ := key
    rw [compareBy, compareBy, compareFields_reordered (ha.member? field) (hb.member? field), ih]

/-- **Sorting** puts variants in the same order. -/
theorem sort_reordered {docs docs' : List Value} (keys : SortKeys)
    (h : List.Forall₂ Value.Reordered docs docs') :
    List.Forall₂ Value.Reordered (keys.sort docs) (keys.sort docs') := by
  unfold sort
  split
  · exact h
  · refine forall₂_mergeSort h fun a a' b b' ha hb => ?_
    rw [precedes, precedes, compareBy_reordered keys ha hb]

end SortKeys

theorem Options.page_forall₂ {α β : Type} {R : α → β → Prop} {l : List α} {l' : List β}
    (o : Options) (h : List.Forall₂ R l l') : List.Forall₂ R (o.page l) (o.page l') := by
  have hskipped := List.forall₂_drop o.skipCount h
  unfold page
  split
  · exact List.forall₂_take _ hskipped
  · exact hskipped

/-! ## Views -/

/-- Entries with the same ids, in the same order, and variants of each other as
documents. -/
def Entries.Reordered (entries entries' : Entries) : Prop :=
  List.Forall₂ (fun e e' => e.1 = e'.1 ∧ e.2.fields.Reordered e'.2.fields) entries entries'

theorem Entries.Reordered.keys_eq {entries entries' : Entries} (h : entries.Reordered entries') :
    Bindings.keys entries = Bindings.keys entries' := by
  rw [← List.forall₂_eq_eq_eq, Bindings.keys, Bindings.keys, List.forall₂_map_left_iff,
    List.forall₂_map_right_iff]
  exact h.imp fun _ _ he => he.1

theorem Document.Reordered.withId {doc doc' : Document} (h : doc.Reordered doc') (id : String) :
    (doc.withId id).Reordered (doc'.withId id) := by
  refine .of_get? (h.distinct.insert _ _) (h.symm.distinct.insert _ _) fun k => ?_
  rw [Bindings.get?_insert, Bindings.get?_insert]
  split
  · exact .some (.string id)
  · exact h.get? k

namespace View

variable {v w : View} {db db' : Database}

/-- **What a filter selects** are the same ids. -/
theorem visible_filter_reordered {f g : Filter} (hv : v.Fits db) (hw : w.Fits db')
    (hdb : db.Sound) (hdb' : db'.Sound) (h : Entries.Reordered (v.visible db) (w.visible db'))
    (hf : f.Reordered g) :
    Entries.Reordered ((v.filter db f).visible db) ((w.filter db' g).visible db') := by
  rw [visible_filter hv hdb, visible_filter hw hdb']
  refine List.rel_filter ?_ h
  rintro ⟨id, e⟩ ⟨_, e'⟩ ⟨rfl, hvariant⟩
  exact Bool.eq_iff_iff.1 (hf.test_eq hvariant id)

/-- **What is read** are variants in the same order. -/
theorem get_reordered (h : Entries.Reordered (v.visible db) (w.visible db'))
    (hoptions : v.options = w.options) :
    List.Forall₂ Value.Reordered (v.get db) (w.get db') := by
  have hdocuments : List.Forall₂ Value.Reordered (v.documents db) (w.documents db') := by
    rw [documents, documents, List.forall₂_map_left_iff, List.forall₂_map_right_iff]
    refine h.imp ?_
    rintro ⟨id, e⟩ ⟨_, e'⟩ ⟨rfl, hvariant⟩
    exact hvariant.withId id
  rw [get_eq, get_eq, hoptions]
  exact Options.page_forall₂ _ (SortKeys.sort_reordered _ hdocuments)

end View

namespace Session

/-- **Queries do not see the order of keys.** A document and a variant of it, under
one id, pass a filter and a variant of that alike, and two fields are in the same order
as variants of them. A filter that is read from a value has a variant that is read from
a variant of the value. So where two views that are held, at any moments of any runs,
see variants of the same documents in the same order, a filter and its variant select
the same ids in the same order, and with the same options variants are read in the same
order. -/
theorem queries_ignore_key_order :
    (∀ (f g : Filter) (id : String) (doc doc' : Document), f.Reordered g → doc.Reordered doc' →
      f.test id doc = g.test id doc') ∧
    (∀ a a' b b' : Option Value, Option.Rel Value.Reordered a a' →
      Option.Rel Value.Reordered b b' → compareFields a b = compareFields a' b') ∧
    (∀ v w : Value, v.Reordered w → ∀ f, Filter.ofValue? v = .ok f →
      ∃ g, Filter.ofValue? w = .ok g ∧ f.Reordered g) ∧
    ∀ (host host' : Host) (config config' : Config) (words words' : List UInt32)
      (actions actions' : List Action) (m m' : Nat) (name name' : String) (v w : View),
      let x := (start host config words).moment actions m
      let y := (start host' config' words').moment actions' m'
      x.views.get? name = some v → y.views.get? name' = some w →
      Entries.Reordered (v.visible x.database) (w.visible y.database) →
        (∀ f g : Filter, f.Reordered g →
          Bindings.keys ((v.filter x.database f).visible x.database) =
            Bindings.keys ((w.filter y.database g).visible y.database) ∧
          Entries.Reordered ((v.filter x.database f).visible x.database)
            ((w.filter y.database g).visible y.database)) ∧
        (v.options = w.options →
          List.Forall₂ Value.Reordered (v.get x.database) (w.get y.database)) := by
  refine ⟨fun f g id doc doc' hf hdoc => hf.test_eq hdoc id,
    fun a a' b b' => compareFields_reordered, fun v w h f => Filter.ofValue?_reordered h, ?_⟩
  intro host host' config config' words words' actions actions' m m' name name' v w x y hv hw h
  have hx : x.Sound := (sound_start host config words).moment actions m
  have hy : y.Sound := (sound_start host' config' words').moment actions' m'
  have hvfits := (hx.view name v hv).fits
  have hwfits := (hy.view name' w hw).fits
  refine ⟨fun f g hf => ?_, View.get_reordered h⟩
  have hselected := View.visible_filter_reordered hvfits hwfits hx.database hy.database h hf
  exact ⟨hselected.keys_eq, hselected⟩

/-- A run that stores a document with one field beside its id. -/
def storingField (v : Value) : List Action :=
  [.onStore .init, .onStore (.createCollection "t" "c"),
    .onView "c" (.add (.object [("_id", .string "a"), ("p", v)]))]

/-- Two runs store an array that holds an object, with its keys in one order and in the
other. Each document is selected by what the other run stored. -/
theorem queries_ignore_key_order_exchanged :
    let v : Value := .array [.object [("x", .bool true), ("y", .null)]]
    let w : Value := .array [.object [("y", .null), ("x", .bool true)]]
    let x := (start (.memory (.new none)) .manual []).moment (storingField v) 3
    let y := (start (.memory (.new none)) .manual []).moment (storingField w) 3
    let f : Filter := .any [.fields [("p", .command (.oneOf [w]))]]
    let g : Filter := .any [.fields [("p", .command (.oneOf [v]))]]
    let whole := View.whole 0 0 "t"
    x.views.get? "c" = some whole ∧ y.views.get? "c" = some whole ∧
      Entries.Reordered (whole.visible x.database) (whole.visible y.database) ∧
      f.Reordered g ∧
      Bindings.keys ((whole.filter x.database f).visible x.database) = ["a"] ∧
      Bindings.keys ((whole.filter y.database g).visible y.database) = ["a"] ∧
      List.Forall₂ Value.Reordered (whole.get x.database) (whole.get y.database) := by
  intro v w x y f g whole
  have hvw : v.Reordered w := by
    refine Value.Reordered.array_iff.2 ⟨_, rfl, .cons ?_ .nil⟩
    exact .of_perm ⟨by decide, trivial, trivial, trivial⟩ (.swap _ _ _)
  have hdoc : Document.Reordered [("p", v)] [("p", w)] := by
    refine .object (by decide) (.refl _) fun k v' w' hv' hw' => ?_
    cases List.mem_singleton.1 hv'
    cases List.mem_singleton.1 hw'
    exact hvw
  have hentries : Entries.Reordered (whole.visible x.database) (whole.visible y.database) :=
    .cons ⟨rfl, hdoc⟩ .nil
  have hcommand : Command.Reordered (.oneOf [w]) (.oneOf [v]) := .oneOf (.cons hvw.symm .nil)
  have hf : f.Reordered g := by
    refine .of_forall₂ (.cons (.fields (fun name c hc => ?_) fun name c' hc' => ?_) .nil)
    · cases List.mem_singleton.1 hc
      exact ⟨_, List.mem_singleton.2 rfl, .command hcommand⟩
    · cases List.mem_singleton.1 hc'
      exact ⟨_, List.mem_singleton.2 rfl, .command hcommand⟩
  obtain ⟨-, -, -, hviews⟩ := queries_ignore_key_order
  obtain ⟨hselect, hread⟩ := hviews (.memory (.new none)) (.memory (.new none)) .manual .manual
    [] [] (storingField v) (storingField w) 3 3 "c" "c" whole whole rfl rfl hentries
  have hselected : Bindings.keys ((whole.filter x.database f).visible x.database) = ["a"] := by
    decide
  exact ⟨rfl, rfl, hentries, hf, hselected, (hselect f g hf).1.symm.trans hselected, hread rfl⟩

end Session

end DocumentStore
