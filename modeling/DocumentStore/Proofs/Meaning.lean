import DocumentStore.Proofs.Conjunction

/-!
# Meaning — what a filter says that is read from a value

A value that is read as a filter is said here to be acceptable (`Acceptable`), to be
at fault (`FirstFault`) and to mean something of a document (`Means`) with no filter
in between: each is one reading of the value, down the lists of alternatives that its
markers hold. The reader and the test of filters agree with them, by induction along
the markers (`Marker.induction`): what is acceptable is read, as a filter that tests
for what the value means, and what is not is refused for its first fault
(`Filter.reading_is_meaning`).
-/

namespace DocumentStore

variable {members : Bindings Value} {alternatives alternatives' : List Value} {v w : Value}

/-! ## Markers -/

/-- **A marker** has two members, in either order: `type`, which is `"or"`, and `arr`,
which is an array, of the alternatives. -/
structure Marker (members : Bindings Value) (alternatives : List Value) : Prop where
  length : members.length = 2
  type : members.get? "type" = some (.string "or")
  arr : members.get? "arr" = some (.array alternatives)

namespace Marker

theorem unique (h : Marker members alternatives) (h' : Marker members alternatives') :
    alternatives = alternatives' := by
  have harr := h.arr.symm.trans h'.arr
  cases harr
  rfl

theorem eq_or (h : Marker members alternatives) :
    members = [("type", .string "or"), ("arr", .array alternatives)] ∨
      members = [("arr", .array alternatives), ("type", .string "or")] := by
  obtain ⟨hlength, htype, harr⟩ := h
  match members, hlength with
  | [(k, v), (k', v')], _ =>
    have htype := Bindings.mem_of_get? htype
    have harr := Bindings.mem_of_get? harr
    simp only [List.mem_cons, Prod.mk.injEq, List.not_mem_nil, or_false] at htype harr
    rcases htype with ⟨rfl, rfl⟩ | ⟨rfl, rfl⟩
    · obtain ⟨rfl, rfl⟩ := harr.resolve_left fun h => absurd h.1 (by decide)
      exact .inl rfl
    · obtain ⟨rfl, rfl⟩ := harr.resolve_right fun h => absurd h.1 (by decide)
      exact .inr rfl

/-- **Induction along the markers**: to the alternatives of a marker, and no further down. -/
theorem induction {P : Value → Prop} (other : ∀ v, (∀ members, v ≠ .object members) → P v)
    (plain : ∀ members, (∀ alternatives, ¬ Marker members alternatives) → P (.object members))
    (marker : ∀ members alternatives, Marker members alternatives →
      (∀ v ∈ alternatives, P v) → P (.object members)) (v : Value) : P v := by
  -- the alternatives are two steps down, behind the array that holds them
  suffices h : P v ∧ ∀ items, v = .array items → ∀ u ∈ items, P u from h.1
  induction v using Value.induction with
  | array items ih =>
    refine ⟨other _ fun _ => (nomatch ·), ?_⟩
    rintro _ ⟨⟩ u hu
    exact (ih u hu).1
  | object members ih =>
    refine ⟨?_, fun _ => (nomatch ·)⟩
    by_cases hm : ∃ alternatives, Marker members alternatives
    · obtain ⟨alternatives, hm⟩ := hm
      exact marker members alternatives hm
        ((ih "arr" _ (Bindings.mem_of_get? hm.arr)).2 alternatives rfl)
    · exact plain members (not_exists.1 hm)
  | null => exact ⟨other _ fun _ => (nomatch ·), fun _ => (nomatch ·)⟩
  | bool b => exact ⟨other _ fun _ => (nomatch ·), fun _ => (nomatch ·)⟩
  | number n => exact ⟨other _ fun _ => (nomatch ·), fun _ => (nomatch ·)⟩
  | string s => exact ⟨other _ fun _ => (nomatch ·), fun _ => (nomatch ·)⟩

end Marker

/-! ## The reading -/

/-- **Acceptable** is every object, a marker if all its alternatives are. -/
inductive Acceptable : Value → Prop
  | marker {members : Bindings Value} {alternatives : List Value}
      (hm : Marker members alternatives) (h : ∀ v ∈ alternatives, Acceptable v) :
      Acceptable (.object members)
  | plain {members : Bindings Value} (hm : ∀ alternatives, ¬ Marker members alternatives) :
      Acceptable (.object members)

/-- **The first fault** of a value is itself, if it is no object, or the first fault of
the first alternative of a marker that is not acceptable. -/
inductive FirstFault : Value → Value → Prop
  | here {v : Value} (hv : ∀ members, v ≠ .object members) : FirstFault v v
  | inside {members : Bindings Value} {before after : List Value} {v w : Value}
      (hm : Marker members (before ++ v :: after)) (hbefore : ∀ u ∈ before, Acceptable u)
      (h : FirstFault v w) : FirstFault (.object members) w

/-- **What a value means** of a document under an id: a marker, that one of its
alternatives does; any other object, that each of its members is loosely equal to
the id, under the key `_id`, or else to what the document has under the key. -/
inductive Means (id : String) (doc : Document) : Value → Prop
  | marker {members : Bindings Value} {alternatives : List Value} {v : Value}
      (hm : Marker members alternatives) (hv : v ∈ alternatives) (h : Means id doc v) :
      Means id doc (.object members)
  | plain {members : Bindings Value} (hm : ∀ alternatives, ¬ Marker members alternatives)
      (h : ∀ k v, (k, v) ∈ members →
        looseEq (if k = "_id" then some (.string id) else doc.get? k) (some v) = true) :
      Means id doc (.object members)

namespace Acceptable

theorem marker_iff (hm : Marker members alternatives) :
    Acceptable (.object members) ↔ ∀ v ∈ alternatives, Acceptable v := by
  refine ⟨fun h => ?_, .marker hm⟩
  cases h with
  | marker hm' h => exact hm.unique hm' ▸ h
  | plain hplain => exact absurd hm (hplain _)

end Acceptable

theorem FirstFault.marker_iff (hm : Marker members alternatives) :
    FirstFault (.object members) w ↔ ∃ before v after, alternatives = before ++ v :: after ∧
      (∀ u ∈ before, Acceptable u) ∧ FirstFault v w := by
  constructor
  · intro h
    cases h with
    | here hv => exact absurd rfl (hv members)
    | inside hm' hbefore h => exact ⟨_, _, _, hm.unique hm', hbefore, h⟩
  · rintro ⟨before, v, after, rfl, hbefore, h⟩
    exact .inside hm hbefore h

theorem FirstFault.not_plain (hm : ∀ alternatives, ¬ Marker members alternatives) :
    ¬ FirstFault (.object members) w := by
  intro h
  cases h with
  | here hv => exact hv members rfl
  | inside hm' _ _ => exact hm _ hm'

namespace Means

variable {id : String} {doc : Document}

theorem marker_iff (hm : Marker members alternatives) :
    Means id doc (.object members) ↔ ∃ v ∈ alternatives, Means id doc v := by
  constructor
  · intro h
    cases h with
    | marker hm' hv h => exact ⟨_, hm.unique hm' ▸ hv, h⟩
    | plain hplain _ => exact absurd hm (hplain _)
  · rintro ⟨v, hv, h⟩
    exact .marker hm hv h

theorem plain_iff (hm : ∀ alternatives, ¬ Marker members alternatives) :
    Means id doc (.object members) ↔ ∀ k v, (k, v) ∈ members →
      looseEq (if k = "_id" then some (.string id) else doc.get? k) (some v) = true := by
  refine ⟨fun h => ?_, .plain hm⟩
  cases h with
  | marker hm' _ _ => exact absurd hm' (hm _)
  | plain _ h => exact h

end Means

/-! ## The reader -/

section

variable {ε α β : Type} {answer : Except ε α} {f : α → β}

theorem map_eq_ok {b : β} : answer.map f = .ok b ↔ ∃ a, answer = .ok a ∧ f a = b := by
  cases answer <;> simp [Except.map]

theorem map_eq_error {e : ε} : answer.map f = .error e ↔ answer = .error e := by
  cases answer <;> simp [Except.map]

end

namespace Filter

variable {f : Filter} {fs : List Filter} {vs : List Value} {e : StoreError}

theorem ofValue?_marker (hm : Marker members alternatives) :
    ofValue? (.object members) = (ofValues? alternatives).map .any := by
  rcases hm.eq_or with rfl | rfl <;> rw [ofValue?]

theorem ofValue?_plain (hm : ∀ alternatives, ¬ Marker members alternatives) :
    ofValue? (.object members) = .ok (.fields (members.map fun (k, v) => (k, .literal v))) := by
  rw [ofValue?]
  · rintro alternatives rfl
    exact hm alternatives ⟨rfl, rfl, rfl⟩
  · rintro alternatives rfl
    exact hm alternatives ⟨rfl, rfl, rfl⟩

theorem ofValue?_other (hv : ∀ members, v ≠ .object members) :
    ofValue? v = .error (.invalidQuery (.notAnObject v)) := by
  cases v with
  | object members => exact absurd rfl (hv members)
  | _ => simp [ofValue?]

theorem ofValues?_cons_error (h : ofValue? v = .error e) : ofValues? (v :: vs) = .error e := by
  rw [ofValues?, h]
  rfl

theorem ofValues?_cons_ok (h : ofValue? v = .ok f) :
    ofValues? (v :: vs) = (ofValues? vs).map (f :: ·) := by
  rw [ofValues?, h]
  cases ofValues? vs <;> rfl

/-- **Several values are read** as filters if each is read as the one in its place. -/
theorem ofValues?_eq_ok_iff : ofValues? vs = .ok fs ↔ vs.map ofValue? = fs.map .ok := by
  induction vs generalizing fs with
  | nil => simp [ofValues?, eq_comm]
  | cons v rest ih =>
    cases hv : ofValue? v with
    | error e =>
      rw [ofValues?_cons_error hv, List.map_cons, hv]
      cases fs <;> simp
    | ok f =>
      rw [ofValues?_cons_ok hv, List.map_cons, hv, map_eq_ok]
      cases fs with
      | nil => simp
      | cons g fs =>
        simp only [← ih, List.map_cons, List.cons.injEq, Except.ok.injEq]
        constructor
        · rintro ⟨_, hrest, rfl, rfl⟩
          exact ⟨rfl, hrest⟩
        · rintro ⟨rfl, hrest⟩
          exact ⟨fs, hrest, rfl, rfl⟩

/-- **They are refused** for the first that is. -/
theorem ofValues?_eq_error_iff : ofValues? vs = .error e ↔
    ∃ before v after, vs = before ++ v :: after ∧ (∀ u ∈ before, ∃ f, ofValue? u = .ok f) ∧
      ofValue? v = .error e := by
  induction vs with
  | nil => simp [ofValues?]
  | cons v rest ih =>
    cases hv : ofValue? v with
    | error e' =>
      rw [ofValues?_cons_error hv, Except.error.injEq]
      constructor
      · rintro rfl
        exact ⟨[], v, rest, rfl, fun _ => (nomatch ·), hv⟩
      · rintro ⟨before, w, after, heq, hbefore, hw⟩
        -- nothing stands before the first value, for it is not read
        cases before with
        | nil =>
          obtain ⟨rfl, -⟩ := List.cons.inj heq
          exact Except.error.inj (hv.symm.trans hw)
        | cons u before =>
          obtain ⟨rfl, -⟩ := List.cons.inj heq
          obtain ⟨f, hf⟩ := hbefore v List.mem_cons_self
          exact absurd (hv.symm.trans hf) (nomatch ·)
    | ok f =>
      rw [ofValues?_cons_ok hv, map_eq_error, ih]
      constructor
      · rintro ⟨before, w, after, rfl, hbefore, hw⟩
        exact ⟨v :: before, w, after, rfl, List.forall_mem_cons.2 ⟨⟨f, hv⟩, hbefore⟩, hw⟩
      · rintro ⟨before, w, after, heq, hbefore, hw⟩
        cases before with
        | nil =>
          obtain ⟨rfl, -⟩ := List.cons.inj heq
          exact absurd (hv.symm.trans hw) (nomatch ·)
        | cons u before =>
          obtain ⟨rfl, rfl⟩ := List.cons.inj heq
          exact ⟨before, w, after, rfl, (List.forall_mem_cons.1 hbefore).2, hw⟩

/-! ## The reader agrees with the reading -/

/-- **What is acceptable is read** as a filter. -/
theorem exists_ofValue?_iff (v : Value) : (∃ f, ofValue? v = .ok f) ↔ Acceptable v := by
  induction v using Marker.induction with
  | other v hv =>
    rw [ofValue?_other hv]
    refine iff_of_false (fun ⟨_, h⟩ => nomatch h) fun h => ?_
    cases h <;> exact hv _ rfl
  | plain members hm => exact iff_of_true ⟨_, ofValue?_plain hm⟩ (.plain hm)
  | marker members alternatives hm ih =>
    rw [Acceptable.marker_iff hm, ofValue?_marker hm]
    constructor
    · rintro ⟨f, hf⟩ v hv
      obtain ⟨fs, hfs, rfl⟩ := map_eq_ok.1 hf
      rw [ofValues?_eq_ok_iff] at hfs
      obtain ⟨f, -, hf⟩ := List.mem_map.1 (hfs ▸ List.mem_map_of_mem hv)
      exact (ih v hv).1 ⟨f, hf.symm⟩
    · intro h
      cases hvs : ofValues? alternatives with
      | ok fs => exact ⟨.any fs, rfl⟩
      | error e =>
        -- what is refused is not acceptable
        obtain ⟨before, v, after, rfl, -, hv⟩ := ofValues?_eq_error_iff.1 hvs
        obtain ⟨f, hf⟩ := (ih v (by simp)).2 (h v (by simp))
        exact absurd (hv.symm.trans hf) (nomatch ·)

/-- **What is not acceptable is refused** for its first fault. -/
theorem ofValue?_eq_error_iff (v : Value) : ofValue? v = .error e ↔
    ∃ w, FirstFault v w ∧ e = .invalidQuery (.notAnObject w) := by
  induction v using Marker.induction with
  | other v hv =>
    rw [ofValue?_other hv, Except.error.injEq]
    constructor
    · rintro rfl
      exact ⟨v, .here hv, rfl⟩
    · rintro ⟨w, h, rfl⟩
      cases h with
      | here _ => rfl
      | inside _ _ _ => exact absurd rfl (hv _)
  | plain members hm =>
    rw [ofValue?_plain hm]
    exact iff_of_false (nomatch ·) fun ⟨w, h, _⟩ => FirstFault.not_plain hm h
  | marker members alternatives hm ih =>
    rw [ofValue?_marker hm, map_eq_error, ofValues?_eq_error_iff]
    constructor
    · rintro ⟨before, v, after, rfl, hbefore, hv⟩
      obtain ⟨w, hw, rfl⟩ := (ih v (by simp)).1 hv
      exact ⟨w, .inside hm (fun u hu => (exists_ofValue?_iff u).1 (hbefore u hu)) hw, rfl⟩
    · rintro ⟨w, h, rfl⟩
      obtain ⟨before, v, after, rfl, hbefore, hv⟩ := (FirstFault.marker_iff hm).1 h
      exact ⟨before, v, after, rfl, fun u hu => (exists_ofValue?_iff u).2 (hbefore u hu),
        (ih v (by simp)).2 ⟨w, hv, rfl⟩⟩

/-- **What is read passes what the value means.** -/
theorem test_iff_means {id : String} {doc : Document} (hf : ofValue? v = .ok f) :
    f.test id doc = true ↔ Means id doc v := by
  induction v using Marker.induction generalizing f with
  | other v hv =>
    rw [ofValue?_other hv] at hf
    cases hf
  | plain members hm =>
    rw [ofValue?_plain hm, Except.ok.injEq] at hf
    subst hf
    rw [test, List.all_map, List.all_eq_true, Means.plain_iff hm]
    exact ⟨fun h k v hmem => h (k, v) hmem, fun h e he => h e.1 e.2 he⟩
  | marker members alternatives hm ih =>
    rw [ofValue?_marker hm] at hf
    obtain ⟨fs, hfs, rfl⟩ := map_eq_ok.1 hf
    rw [ofValues?_eq_ok_iff] at hfs
    rw [test, testAny_eq_any, List.any_eq_true, Means.marker_iff hm]
    constructor
    · rintro ⟨f, hf, hpasses⟩
      obtain ⟨v, hv, hread⟩ := List.mem_map.1 (hfs ▸ List.mem_map_of_mem hf)
      exact ⟨v, hv, (ih v hv hread).1 hpasses⟩
    · rintro ⟨v, hv, hmeans⟩
      obtain ⟨f, hf, hread⟩ := List.mem_map.1 (hfs ▸ List.mem_map_of_mem hv)
      exact ⟨f, hf, (ih v hv hread.symm).2 hmeans⟩

/-- **Filters that are read mean what the value says.** A value is read just if it is
acceptable, and refused just if it has a first fault, with an error about that. What
is read passes the documents, under their ids, of which the value means something,
and no others. -/
theorem reading_is_meaning (v : Value) :
    ((∃ f, ofValue? v = .ok f) ↔ Acceptable v) ∧
    (∀ e, ofValue? v = .error e ↔ ∃ w, FirstFault v w ∧ e = .invalidQuery (.notAnObject w)) ∧
    ∀ f, ofValue? v = .ok f → ∀ id doc, f.test id doc = true ↔ Means id doc v :=
  ⟨exists_ofValue?_iff v, fun _ => ofValue?_eq_error_iff v, fun _ hf _ _ => test_iff_means hf⟩

/-- A marker with its keys the other way round, in which another marker and an object
of three members stand that is none; the document has what the inner marker's second
alternative asks for. -/
theorem reading_is_meaning_nested :
    let inner : Value := .object [("type", .string "or"),
      ("arr", .array [.object [("_id", .string "b")], .object [("x", .null), ("y", .bool true)]])]
    let other : Value := .object [("type", .string "or"), ("arr", .array []), ("z", .null)]
    let v : Value := .object [("arr", .array [other, inner]), ("type", .string "or")]
    let f : Filter := .any
      [.fields [("type", .literal (.string "or")), ("arr", .literal (.array [])),
        ("z", .literal .null)],
      .any [.fields [("_id", .literal (.string "b"))],
        .fields [("x", .literal .null), ("y", .literal (.bool true))]]]
    let doc : Document := [("y", .bool true)]
    ofValue? v = .ok f ∧ f.test "a" doc = true ∧ Means "a" doc v := by
  intro inner other v f doc
  have hread : ofValue? v = .ok f := by rfl
  have hpasses : f.test "a" doc = true := by decide
  exact ⟨hread, hpasses, ((reading_is_meaning v).2.2 f hread _ _).1 hpasses⟩

end Filter

end DocumentStore
