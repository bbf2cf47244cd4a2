import DocumentStore.Proofs.Run

/-!
# Insertions — when a document was stored, and whether it was removed

A document comes into a collection by an addition or by a load (`Stores`),
and goes by a removal through a handle or a view (`Removes`). An insertion
is named by the position of its action in a run, and it is present until
something removes it (`Present`). What the generations of the entries are
for is that two entries under an id, at two moments of a run, have the same
generation just if they are the same insertion (`generation_eq_iff`).
-/

namespace DocumentStore

namespace Session

open Database

variable {x : Session} {a : Action} {r : RootId} {id : String} {e e' : Entry}

/-- The operation stores a document under an id: as an addition that
answers with it, or as a load that finds it in what becomes new data. -/
inductive Stores (x : Session) : Action → RootId → String → Prop
  | add {view : String} {document : Value} {v : View} {id : String}
      (hview : x.views.get? view = some v)
      (hid : (x.step (.onView view (.add document))).2 = .ok (.id id)) :
      Stores x (.onView view (.add document)) v.root id
  | load {a : Action} {r : RootId} {id : String} (ha : Loads a)
      (hr : x.database.roots.length ≤ r)
      (hid : id ∈ Bindings.keys ((x.step a).1.database.entries r)) : Stores x a r id

/-- The operation removes the document under an id: through a view that
sees it, or through its handle. -/
inductive Removes (x : Session) : Action → RootId → String → Prop
  | view {view : String} {v : View} {id : String} (hview : x.views.get? view = some v)
      (hid : id ∈ Bindings.keys (v.visible x.database)) :
      Removes x (.onView view .remove) v.root id
  | handle {handle : String} {h : Handle} (hhandle : x.handles.get? handle = some h)
      (hp : h.isPresent x.database = true) : Removes x (.onHandle handle .remove) h.root h.id

/-! ## The edits behind them -/

/-- An addition that answers with an id put it. -/
theorem edit?_of_add {view : String} {document : Value} {v : View}
    (hview : x.views.get? view = some v)
    (hid : (x.step (.onView view (.add document))).2 = .ok (.id id)) :
    ∃ fields words, x.edit? (.onView view (.add document)) =
      some (v.store, .put v.root id fields words) := by
  simp only [step_onView hview, onView, bind, Except.bind] at hid
  cases hadd : v.add x.database document with
  | error e => rw [hadd] at hid; cases hid
  | ok added =>
    rw [hadd] at hid
    obtain ⟨id', db⟩ := added
    cases hid
    obtain ⟨fields, words, hedit, -⟩ := View.add_eq_ok_iff.1 hadd
    exact ⟨fields, words, by simp [edit?, hview, hedit]⟩

/-- A put is an addition that answers with the id. -/
theorem stores_of_edit? {s : StoreId} {fields : Document} {words : List UInt32}
    (he : x.edit? a = some (s, .put r id fields words)) : x.Stores a r id := by
  cases a with
  | onView view a =>
    obtain ⟨v, hview, -, he⟩ := edit?_onView_eq_some_iff.1 he
    cases a with
    | add document =>
      obtain ⟨id', fields', words', heq', -⟩ := View.edit?_add he
      cases heq'
      refine .add hview ?_
      rw [step_onView hview, onView, View.add_eq_ok_iff.2 ⟨_, _, he, rfl⟩]
      rfl
    | updateValue value => simp [View.edit?] at he
    | _ => cases he
  | onHandle handle a =>
    obtain ⟨h, -, -, he⟩ := edit?_onHandle_eq_some_iff.1 he
    cases a <;> simp [Handle.edit?] at he
  | onStore a =>
    obtain ⟨name, heq | heq⟩ := exists_name_of_edit? (edit?_onStore_eq_some_iff.1 he).2 <;>
      cases heq
  | _ => cases he

/-- A removal discards what is under the id. -/
theorem edit?_of_removes (hx : x.Sound) (h : x.Removes a r id) :
    ∃ s selects, x.edit? a = some (s, .discard r selects) ∧
      ∀ e, (id, e) ∈ x.database.entries r → selects id e = true := by
  cases h with
  | @view view v id hview hid =>
    refine ⟨v.store, v.admits, by simp [edit?, hview, View.edit?], fun e he => ?_⟩
    obtain ⟨e', he'⟩ := Bindings.mem_keys_iff.1 hid
    obtain ⟨hmem, hadmits⟩ := (hx.mem_visible_iff hview).1 he'
    rwa [(hx.database.distinct v.root).eq_of_mem he hmem]
  | @handle handle h hhandle hp =>
    refine ⟨h.store, h.selects, by simp [edit?, hhandle, Handle.edit?, hp], fun e he => ?_⟩
    have hd := hx.database.distinct h.root
    obtain ⟨e', hmem, hpin⟩ := (Handle.isPresent_iff hd).1 hp
    rw [hd.eq_of_mem he hmem]
    simp [Handle.selects, hpin]

/-- And what is discarded was removed. -/
theorem removes_of_edit? (hx : x.Sound) {s : StoreId} {selects : String → Entry → Bool}
    (he : x.edit? a = some (s, .discard r selects)) (hmem : (id, e) ∈ x.database.entries r)
    (hsel : selects id e = true) : x.Removes a r id := by
  cases a with
  | onView view a =>
    obtain ⟨v, hview, -, he⟩ := edit?_onView_eq_some_iff.1 he
    cases a with
    | add document =>
      obtain ⟨id', fields', words', heq', -⟩ := View.edit?_add he
      cases heq'
    | updateValue value => simp [View.edit?] at he
    | remove =>
      cases he
      exact .view hview (Bindings.mem_keys_iff.2 ⟨e, (hx.mem_visible_iff hview).2 ⟨hmem, hsel⟩⟩)
    | _ => cases he
  | onHandle handle a =>
    obtain ⟨h, hhandle, -, he⟩ := edit?_onHandle_eq_some_iff.1 he
    cases a with
    | remove =>
      obtain ⟨hp, heq⟩ := Option.ite_none_right_eq_some.1 he
      cases heq
      simp only [Handle.selects, Bool.and_eq_true, beq_iff_eq] at hsel
      exact hsel.1 ▸ .handle hhandle hp
    | _ => simp [Handle.edit?] at he
  | onStore a =>
    obtain ⟨name, heq | heq⟩ := exists_name_of_edit? (edit?_onStore_eq_some_iff.1 he).2 <;>
      cases heq
  | _ => cases he

/-! ## Steps -/

/-- A document that is stored is new, and so is its generation. -/
theorem entries_of_stores (hx : x.Sound) (h : x.Stores a r id) :
    id ∉ Bindings.keys (x.database.entries r) ∧
      ∃ e, (id, e) ∈ (x.step a).1.database.entries r ∧ x.database.generation ≤ e.generation := by
  cases h with
  | @add view document v id hview hid =>
    obtain ⟨fields, words, he⟩ := edit?_of_add hview hid
    have ha := hx.allowed he
    refine ⟨ha.2.2.2.1, ⟨x.database.generation, fields⟩, ?_, Nat.le_refl _⟩
    rw [entries_step_of_edit? hx he, Edit.rewrite, if_pos rfl]
    exact List.mem_append_right _ List.mem_cons_self
  | load ha hr hid =>
    have hold := entries_of_length_le hr
    refine ⟨by rw [hold]; simp [Bindings.keys], ?_⟩
    obtain ⟨e, hmem⟩ := Bindings.mem_keys_iff.1 hid
    rcases entries_step hx a r with ⟨_, _, he, -⟩ | ⟨-, hsame⟩ | ⟨-, -, hfresh⟩
    · rw [ha.edit?_eq_none] at he; cases he
    · rw [hsame, hold] at hmem; simp at hmem
    · exact ⟨e, hmem, hfresh.first_le id e hmem⟩

/-- A document that is removed is gone. -/
theorem notMem_of_removes (hx : x.Sound) (h : x.Removes a r id) :
    id ∉ Bindings.keys ((x.step a).1.database.entries r) := by
  obtain ⟨s, selects, he, hselects⟩ := edit?_of_removes hx h
  intro hid
  obtain ⟨e, hmem⟩ := Bindings.mem_keys_iff.1 hid
  rw [entries_step_of_edit? hx he, Edit.rewrite, if_pos rfl] at hmem
  obtain ⟨hmem, hnot⟩ := List.mem_filter.1 hmem
  simp [hselects e hmem] at hnot

/-- **A document stays** under its generation, unless it is removed. -/
theorem mem_step_of_not_removes (hx : x.Sound) (hmem : (id, e) ∈ x.database.entries r)
    (h : ¬ x.Removes a r id) :
    ∃ e', (id, e') ∈ (x.step a).1.database.entries r ∧ e'.generation = e.generation := by
  have hsame (hmem' : (id, e) ∈ (x.step a).1.database.entries r) :
      ∃ e', (id, e') ∈ (x.step a).1.database.entries r ∧ e'.generation = e.generation :=
    ⟨e, hmem', rfl⟩
  rcases entries_step hx a r with ⟨s, edit, he, ha, hentries⟩ | ⟨-, hentries⟩ | ⟨-, hr, -⟩
  · rw [hentries] at hsame ⊢
    cases edit with
    | create name => exact hsame hmem
    | dismiss name => exact hsame hmem
    | put r' id' fields words =>
      refine hsame ?_
      simp only [Edit.rewrite]
      split
      · exact List.mem_append_left _ hmem
      · exact hmem
    | patch r' selects p =>
      simp only [Edit.rewrite] at hsame ⊢
      split
      · refine ⟨_, List.mem_map.2 ⟨(id, e), hmem, rfl⟩, ?_⟩
        dsimp only
        split <;> rfl
      · next hr => exact ⟨e, hmem, rfl⟩
    | discard r' selects =>
      refine hsame ?_
      simp only [Edit.rewrite]
      split
      · next hr =>
        subst hr
        have hnot : ¬ selects id e = true := fun hsel => h (removes_of_edit? hx he hmem hsel)
        exact List.mem_filter.2 ⟨hmem, by simpa using hnot⟩
      · exact hmem
  · exact hsame (hentries ▸ hmem)
  · rw [entries_of_length_le hr] at hmem
    simp at hmem

/-- **Where a document comes from**: it was there, under its generation,
or it was stored. -/
theorem mem_or_stores_of_mem_step (hx : x.Sound)
    (hmem : (id, e') ∈ (x.step a).1.database.entries r) :
    (∃ e, (id, e) ∈ x.database.entries r ∧ e'.generation = e.generation) ∨ x.Stores a r id := by
  rcases entries_step hx a r with ⟨s, edit, he, ha, hentries⟩ | ⟨-, hentries⟩ | ⟨hloads, hr, -⟩
  · rw [hentries] at hmem
    rcases Edit.mem_rewrite_generation hmem with hold | ⟨fields, words, rfl, rfl⟩
    · exact .inl hold
    · exact .inr (stores_of_edit? he)
  · exact .inl ⟨e', hentries ▸ hmem, rfl⟩
  · exact .inr (.load hloads hr (Bindings.mem_keys_iff.2 ⟨e', hmem⟩))

/-! ## Runs -/

/-- The insertion that an action of a run makes is present at a moment: the
action came before, it stored the document, and none since removed it. -/
structure Present (x : Session) (actions : List Action) (r : RootId) (id : String) (i t : Nat) :
    Prop where
  lt : i < t
  stores : ∃ a, actions[i]? = some a ∧ (x.moment actions i).Stores a r id
  not_removes : ∀ j a, i < j → j < t → actions[j]? = some a → ¬ (x.moment actions j).Removes a r id

variable {actions : List Action} {i i' t t' : Nat}

/-- What is present is there, under the generation it was stored under,
which was a new one. -/
theorem Present.exists_mem (hx : x.Sound) (h : Present x actions r id i t) :
    ∃ e₀ e, (id, e₀) ∈ (x.moment actions (i + 1)).database.entries r ∧
      (id, e) ∈ (x.moment actions t).database.entries r ∧ e.generation = e₀.generation ∧
      (x.moment actions i).database.generation ≤ e.generation := by
  obtain ⟨hlt, ⟨a, ha, hstores⟩, hkept⟩ := h
  obtain ⟨-, e₀, he₀, hgen⟩ := entries_of_stores (hx.moment actions i) hstores
  rw [← moment_succ ha] at he₀
  refine ⟨e₀, ?_⟩
  -- from the moment after the insertion on, no step removes it
  induction hlt with
  | refl => exact ⟨e₀, he₀, he₀, rfl, hgen⟩
  | @step t hit ih =>
    obtain ⟨e, -, he, heq, hle⟩ := ih fun j a hj hjt => hkept j a hj (Nat.lt_succ_of_lt hjt)
    cases hb : actions[t]? with
    | none => rw [moment_succ_of_none hb]; exact ⟨e, he₀, he, heq, hle⟩
    | some b =>
      obtain ⟨e', he', heq'⟩ := mem_step_of_not_removes (a := b) (hx.moment actions t) he
        (hkept t b hit (Nat.lt_succ_self t) hb)
      rw [moment_succ hb]
      exact ⟨e', he₀, he', heq'.trans heq, heq'.symm ▸ hle⟩

/-- **Whatever is there was inserted**, if nothing was there to begin
with. -/
theorem exists_present (hx : x.Sound) (h₀ : x.database.entries r = [])
    (hmem : (id, e) ∈ (x.moment actions t).database.entries r) :
    ∃ i, Present x actions r id i t := by
  induction t generalizing e with
  | zero => rw [moment_zero, h₀] at hmem; simp at hmem
  | succ t ih =>
    cases ha : actions[t]? with
    | none =>
      rw [moment_succ_of_none ha] at hmem
      obtain ⟨i, hlt, hstores, hkept⟩ := ih hmem
      refine ⟨i, Nat.lt_succ_of_lt hlt, hstores, fun j a hj hjt hja => ?_⟩
      rcases Nat.lt_succ_iff_lt_or_eq.1 hjt with hjt | rfl
      · exact hkept j a hj hjt hja
      · rw [ha] at hja; cases hja
    | some a =>
      rw [moment_succ ha] at hmem
      rcases mem_or_stores_of_mem_step (hx.moment actions t) hmem with ⟨e₁, he₁, -⟩ | hstores
      · obtain ⟨i, hlt, hstores, hkept⟩ := ih he₁
        refine ⟨i, Nat.lt_succ_of_lt hlt, hstores, fun j b hj hjt hjb => ?_⟩
        rcases Nat.lt_succ_iff_lt_or_eq.1 hjt with hjt | rfl
        · exact hkept j b hj hjt hjb
        · -- had this step removed it, it were not there now
          rw [ha] at hjb
          cases hjb
          exact fun hremoves => notMem_of_removes (hx.moment actions j) hremoves
            (Bindings.mem_keys_iff.2 ⟨e, hmem⟩)
      · refine ⟨t, Nat.lt_succ_self t, ⟨a, ha, hstores⟩, fun j b hj hjt => ?_⟩
        exact absurd hj (Nat.not_lt.2 (Nat.le_of_lt_succ hjt))

/-- An insertion has one generation for good. -/
theorem Present.generation_eq (hx : x.Sound) (h : Present x actions r id i t)
    (h' : Present x actions r id i t') (he : (id, e) ∈ (x.moment actions t).database.entries r)
    (he' : (id, e') ∈ (x.moment actions t').database.entries r) : e.generation = e'.generation := by
  obtain ⟨e₀, e₁, he₀, he₁, heq, -⟩ := h.exists_mem hx
  obtain ⟨e₀', e₁', he₀', he₁', heq', -⟩ := h'.exists_mem hx
  rw [((hx.moment actions t).database.distinct r).eq_of_mem he he₁,
    ((hx.moment actions t').database.distinct r).eq_of_mem he' he₁', heq, heq',
    ((hx.moment actions (i + 1)).database.distinct r).eq_of_mem he₀ he₀']

/-- A later insertion has a later generation. -/
theorem Present.generation_lt (hx : x.Sound) (h : Present x actions r id i t)
    (h' : Present x actions r id i' t') (he : (id, e) ∈ (x.moment actions t).database.entries r)
    (he' : (id, e') ∈ (x.moment actions t').database.entries r) (hlt : i < i') :
    e.generation < e'.generation := by
  obtain ⟨e₀, e₁, he₀, he₁, heq, -⟩ := h.exists_mem hx
  obtain ⟨-, e₁', -, he₁', -, hle⟩ := h'.exists_mem hx
  rw [((hx.moment actions t).database.distinct r).eq_of_mem he he₁, heq,
    ((hx.moment actions t').database.distinct r).eq_of_mem he' he₁']
  -- between them lies the next generation of every moment from the one to the other
  have hbefore := (hx.moment actions (i + 1)).database.lt_generation r id e₀ he₀
  have hbetween : (x.moment actions (i + 1)).database.generation ≤
      (x.moment actions i').database.generation :=
    (evolves_moment hx (Nat.succ_le_of_lt hlt)).generation
  exact Nat.lt_of_lt_of_le hbefore (Nat.le_trans hbetween hle)

/-- Equal generations are of one insertion. -/
theorem Present.eq_of_generation (hx : x.Sound) (h : Present x actions r id i t)
    (h' : Present x actions r id i' t') (he : (id, e) ∈ (x.moment actions t).database.entries r)
    (he' : (id, e') ∈ (x.moment actions t').database.entries r)
    (heq : e.generation = e'.generation) : i = i' := by
  rcases Nat.lt_trichotomy i i' with hlt | rfl | hlt
  · exact absurd heq (Nat.ne_of_lt (h.generation_lt hx h' he he' hlt))
  · rfl
  · exact absurd heq (Nat.ne_of_gt (h'.generation_lt hx h he' he hlt))

/-- At one moment, one insertion of an id is present. -/
theorem Present.unique (hx : x.Sound) (h : Present x actions r id i t)
    (h' : Present x actions r id i' t) : i = i' := by
  obtain ⟨-, e, -, he, -⟩ := h.exists_mem hx
  exact h.eq_of_generation hx h' he he rfl

/-- **Two entries are the same insertion** just if they have the same
generation. -/
theorem generation_eq_iff (hx : x.Sound) (h₀ : x.database.entries r = [])
    (he : (id, e) ∈ (x.moment actions t).database.entries r)
    (he' : (id, e') ∈ (x.moment actions t').database.entries r) :
    e.generation = e'.generation ↔
      ∃ i, Present x actions r id i t ∧ Present x actions r id i t' := by
  constructor
  · intro heq
    obtain ⟨i, h⟩ := exists_present hx h₀ he
    obtain ⟨i', h'⟩ := exists_present hx h₀ he'
    obtain rfl := h.eq_of_generation hx h' he he' heq
    exact ⟨i, h, h'⟩
  · rintro ⟨i, h, h'⟩
    exact h.generation_eq hx h' he he'

end Session

end DocumentStore
