import DocumentStore.Query.Filter

/-!
# Conjunction — what adding a criterion to a filter asks for

A criterion is added to a filter in each of its alternatives, at any depth, and
there takes the place of one on the same field. So what passes is what passes the
criterion and the filter without its criteria on the field
(`Filter.test_field`). This is the filter and the criterion together just if
those criteria decided nothing, as they do when there are none
(`Filter.field_is_conjunction_iff`); where an alternative had a criterion on the
field, documents may pass that did not pass the filter.
-/

namespace DocumentStore

namespace Bindings

variable {α : Type} {m : Bindings α} {k : String} {v : α}

/-- What holds of all bindings after an insertion. -/
theorem all_insert (hd : Distinct m) (p : String × α → Bool) :
    (insert m k v).all p = (p (k, v) && (erase m k).all p) := by
  induction m with
  | nil => simp [insert, erase]
  | cons e rest ih =>
    obtain ⟨k', v'⟩ := e
    obtain ⟨hk', hrest⟩ := List.nodup_cons.1 hd
    rw [insert]
    by_cases hk : k' = k
    · subst hk
      have hkept : erase ((k', v') :: rest) k' = rest := by
        rw [erase, List.filter_cons_of_neg (by simp)]
        exact erase_of_not_mem hk'
      rw [if_pos rfl, List.all_cons, hkept]
    · have hkept : erase ((k', v') :: rest) k = (k', v') :: erase rest k :=
        List.filter_cons_of_pos (by simpa using hk)
      rw [if_neg hk, List.all_cons, ih hrest, hkept, List.all_cons, Bool.and_left_comm]

end Bindings

namespace Filter

variable {f : Filter} {name : String} {c : Criterion} {id : String} {doc : Document}

/-- No alternative has two criteria on a field. -/
inductive WellFormed : Filter → Prop
  | fields {criteria : List (String × Criterion)} (h : Bindings.Distinct criteria) :
      WellFormed (.fields criteria)
  | any {alternatives : List Filter} (h : ∀ f ∈ alternatives, WellFormed f) :
      WellFormed (.any alternatives)

/-- Some alternative has a criterion on a field. -/
inductive Names (name : String) : Filter → Prop
  | fields {criteria : List (String × Criterion)} (h : name ∈ Bindings.keys criteria) :
      Names name (.fields criteria)
  | any {alternatives : List Filter} {f : Filter} (hf : f ∈ alternatives) (h : Names name f) :
      Names name (.any alternatives)

mutual

/-- The filter without its criteria on a field. -/
def without (name : String) : Filter → Filter
  | .fields criteria => .fields (Bindings.erase criteria name)
  | .any alternatives => .any (withoutEach name alternatives)

/-- Several filters without their criteria on a field. -/
def withoutEach (name : String) : List Filter → List Filter
  | [] => []
  | f :: rest => without name f :: withoutEach name rest

end

/-! ## Alternatives -/

variable {alternatives : List Filter}

theorem fieldEach_eq_map (name : String) (c : Criterion) (alternatives : List Filter) :
    fieldEach name c alternatives = alternatives.map (field name c) := by
  induction alternatives with
  | nil => rfl
  | cons f rest ih => rw [fieldEach, ih, List.map_cons]

theorem withoutEach_eq_map (name : String) (alternatives : List Filter) :
    withoutEach name alternatives = alternatives.map (without name) := by
  induction alternatives with
  | nil => rfl
  | cons f rest ih => rw [withoutEach, ih, List.map_cons]

theorem testAny_eq_any (id : String) (doc : Document) (alternatives : List Filter) :
    testAny id doc alternatives = alternatives.any (test id doc) := by
  induction alternatives with
  | nil => rfl
  | cons f rest ih => rw [testAny, ih, List.any_cons]

/-! ## Adding a criterion -/

/-- **A criterion that is added** takes the place of those the filter had on the
field. -/
theorem test_field (hf : f.WellFormed) (name : String) (c : Criterion) (id : String)
    (doc : Document) : (f.field name c).test id doc =
      (c.test (fieldOf id doc name) && (f.without name).test id doc) := by
  induction hf with
  | fields h =>
    rw [field, test, without, test, Bindings.all_insert h]
  | any h ih =>
    rw [field, test, without, test, fieldEach_eq_map, withoutEach_eq_map, testAny_eq_any,
      testAny_eq_any, List.any_map, List.any_map, Bool.eq_iff_iff, Bool.and_eq_true,
      List.any_eq_true, List.any_eq_true]
    -- the criterion is the same in all alternatives, so it may be taken out of them
    constructor
    · rintro ⟨f, hf, hpasses⟩
      rw [Function.comp_apply, ih f hf, Bool.and_eq_true] at hpasses
      exact ⟨hpasses.1, f, hf, hpasses.2⟩
    · rintro ⟨hc, f, hf, hpasses⟩
      refine ⟨f, hf, ?_⟩
      rw [Function.comp_apply, ih f hf, Bool.and_eq_true]
      exact ⟨hc, hpasses⟩

/-- It leaves no alternative with two criteria on a field. -/
theorem WellFormed.field (hf : f.WellFormed) (name : String) (c : Criterion) :
    (f.field name c).WellFormed := by
  induction hf with
  | fields h => exact .fields (h.insert name c)
  | any h ih =>
    rw [Filter.field, fieldEach_eq_map]
    refine .any fun g hg => ?_
    obtain ⟨f, hf, rfl⟩ := List.mem_map.1 hg
    exact ih f hf

/-- Without some of its criteria a filter passes no less. -/
theorem test_without_of_test (hf : f.WellFormed) (h : f.test id doc = true) :
    (f.without name).test id doc = true := by
  induction hf with
  | fields hd =>
    rw [test, List.all_eq_true] at h
    rw [without, test, List.all_eq_true]
    exact fun e he => h e (List.mem_filter.1 he).1
  | any hall ih =>
    rw [test, testAny_eq_any, List.any_eq_true] at h
    rw [without, test, testAny_eq_any, withoutEach_eq_map, List.any_eq_true]
    obtain ⟨f, hf, hpasses⟩ := h
    exact ⟨f.without name, List.mem_map_of_mem hf, ih f hf hpasses⟩

/-- A filter without criteria on a field has none to lose. -/
theorem without_eq_self (hf : f.WellFormed) (h : ¬ f.Names name) : f.without name = f := by
  induction hf with
  | fields hd =>
    rw [without, Bindings.erase_of_not_mem fun hmem => h (.fields hmem)]
  | @any alternatives hall ih =>
    rw [without, withoutEach_eq_map]
    refine congrArg any ((List.map_congr_left fun f hf => ?_).trans (List.map_id alternatives))
    exact ih f hf fun hnames => h (.any hf hnames)

/-- A criterion that every field passes. -/
def always : Criterion := .command (.or (.exists true) (.exists false))

theorem test_always (field : Option Value) : always.test field = true := by
  rw [always, Criterion.test, Command.test, Command.test, Command.test]
  cases Command.isPresent field <;> rfl

/-- **When adding a criterion is conjunction.** A filter to which a criterion is
added passes what passes the criterion and the filter without its criteria on the
field. That is, whatever the criterion, what passes both the filter and the
criterion, just if the criteria that the filter has on the field decide nothing,
as they do when no alternative has any. The filter by itself never passes more
than it does without them. -/
theorem field_is_conjunction_iff (f : Filter) (hf : f.WellFormed) (name : String) :
    (∀ c id doc, (f.field name c).test id doc =
      (c.test (fieldOf id doc name) && (f.without name).test id doc)) ∧
    ((∀ c id doc, (f.field name c).test id doc = true ↔
        f.test id doc = true ∧ c.test (fieldOf id doc name) = true) ↔
      ∀ id doc, (f.without name).test id doc = f.test id doc) ∧
    (¬ f.Names name → f.without name = f) ∧
    (∀ id doc, f.test id doc = true → (f.without name).test id doc = true) ∧
    ∀ c, (f.field name c).WellFormed := by
  refine ⟨test_field hf name, ⟨fun h id doc => ?_, fun h c id doc => ?_⟩, without_eq_self hf,
    fun id doc => test_without_of_test hf, hf.field name⟩
  · -- with a criterion that everything passes, what is left are the criteria on the field
    have halways := h always id doc
    rw [test_field hf, test_always, Bool.true_and] at halways
    exact Bool.eq_iff_iff.2 (halways.trans (and_iff_left rfl))
  · rw [test_field hf, h, Bool.and_eq_true, and_comm]

/-- Two alternatives, on different fields and at different depths. -/
def eitherField : Filter :=
  .any [.fields [("a", .literal (.bool true))], .any [.fields [("b", .literal (.bool true))]]]

/-- A criterion on a third field is required beside them, whatever it is. -/
theorem field_is_conjunction_iff_eitherField :
    eitherField.WellFormed ∧ ¬ eitherField.Names "c" ∧
      ∀ c id doc, (eitherField.field "c" c).test id doc = true ↔
        eitherField.test id doc = true ∧ c.test (fieldOf id doc "c") = true := by
  have hf : eitherField.WellFormed := .any (List.forall_mem_cons.2 ⟨.fields (by decide),
    List.forall_mem_singleton.2 (.any (List.forall_mem_singleton.2 (.fields (by decide))))⟩)
  have hnames : ¬ eitherField.Names "c" := by
    rintro (_ | ⟨hf, h⟩)
    rcases List.mem_cons.1 hf with rfl | hf
    · cases h with
      | fields h => exact absurd h (by decide)
    · obtain rfl := List.mem_singleton.1 hf
      cases h with
      | any hf h =>
        obtain rfl := List.mem_singleton.1 hf
        cases h with
        | fields h => exact absurd h (by decide)
  obtain ⟨-, hiff, hself, -⟩ := field_is_conjunction_iff eitherField hf "c"
  exact ⟨hf, hnames, hiff.2 fun id doc => by rw [hself hnames]⟩

/-- **Where an alternative had a criterion on the field**, a document passes that
did not pass the alternative. -/
theorem not_conjunction_of_named :
    let f : Filter := .any [.fields [("a", .literal (.bool true))]]
    let c : Criterion := .literal (.bool false)
    let doc : Document := [("a", .bool false)]
    (f.field "a" c).test "k" doc = true ∧ f.test "k" doc = false ∧
      ¬ ((f.field "a" c).test "k" doc = true ↔
        f.test "k" doc = true ∧ c.test (fieldOf "k" doc "a") = true) := by
  intro f c doc
  have hadded : (f.field "a" c).test "k" doc = true := by decide
  have hfails : f.test "k" doc = false := by decide
  refine ⟨hadded, hfails, fun h => ?_⟩
  rw [hfails] at h
  exact absurd (h.1 hadded).1 Bool.false_ne_true

end Filter

end DocumentStore
