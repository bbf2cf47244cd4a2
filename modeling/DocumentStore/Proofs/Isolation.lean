import DocumentStore.Proofs.Ownership

/-!
# Isolation — collections apart, and collections whose name is gone

Views and handles are of one collection, and what is done through them is
done to its data alone (`Session.Through`, `entries_step_of_through`). The
names of the stores are none of their business
(`collections_step_of_through`). So data that no store names any more
(`Database.Detached`) is never seen in a snapshot again, whatever is done to
it (`snapshot?_step_of_detached`), and the views of it go on reading and
editing it as they did (`Session.ViewWorks`, `Session.HandleWorks`).

Data has its name from the moment a view of it is first obtained until the
name is taken away, and never after (`attached_or_detached`). Hence two views
that were obtained by one name are the same view as long as it was not taken
away between, and of different data if it was (`obtained_eq_or`).
-/

namespace DocumentStore

namespace Database

variable {db db' : Database} {s t : StoreId} {name : String} {r : RootId}

/-- A store has the data of a collection under a name. -/
def Attached (db : Database) (s : StoreId) (name : String) (r : RootId) : Prop :=
  ∃ names, db.collections? s = some names ∧ names.get? name = some r

/-- The data of a collection is there, and no store has a name for it. -/
structure Detached (db : Database) (r : RootId) : Prop where
  lt : r < db.roots.length
  unnamed : ∀ s, ¬ db.Owns s r

theorem Attached.owns (h : db.Attached s name r) : db.Owns s r := by
  obtain ⟨names, hnames, hget⟩ := h
  exact ⟨names, name, hnames, Bindings.mem_of_get? hget⟩

/-- A name is of one collection at a time. -/
theorem Attached.unique {r' : RootId} (h : db.Attached s name r) (h' : db.Attached s name r') :
    r = r' := by
  obtain ⟨names, hnames, hget⟩ := h
  obtain ⟨names', hnames', hget'⟩ := h'
  have heq : names = names' := Option.some.inj (hnames.symm.trans hnames')
  subst heq
  exact Option.some.inj (hget.symm.trans hget')

/-- Finding a collection gives the view of the data that has the name. -/
theorem collection?_eq_some_iff {v : View} :
    db.collection? s name = .ok (some v) ↔
      ∃ r, db.Attached s name r ∧ v = .whole s r name := by
  unfold collection?
  cases hnames : db.collections? s with
  | none => simp [Attached, hnames]
  | some names =>
    simp only [Except.ok.injEq, Option.map_eq_some_iff, Attached, hnames, Option.some.injEq,
      exists_eq_left']
    exact exists_congr fun r => and_congr_right fun _ => eq_comm

end Database

namespace Session

open Database

variable {x : Session} {a : Action} {s t : StoreId} {name : String} {r r' : RootId} {v w : View}

/-- An operation goes through a view or a handle of a collection. -/
inductive Through (x : Session) : Action → RootId → Prop
  | view {view : String} {v : View} (a : ViewAction) (hview : x.views.get? view = some v) :
      Through x (.onView view a) v.root
  | handle {handle : String} {h : Handle} (a : HandleAction)
      (hhandle : x.handles.get? handle = some h) : Through x (.onHandle handle a) h.root

/-- An operation takes a name of a store away. -/
def Dismisses (x : Session) (a : Action) (s : StoreId) (name : String) : Prop :=
  a = .onStore (.removeCollection name) ∧ x.store = some s

/-- An operation obtains the view of a collection by its name in a store: of
one that it makes, or of one that it finds. -/
inductive Obtains (x : Session) : Action → StoreId → String → View → Prop
  | made {s : StoreId} {name bind : String} {v : View} {db : Database} (hs : x.store = some s)
      (h : x.database.createCollection s name = .ok (v, db)) :
      Obtains x (.onStore (.createCollection name bind)) s name v
  | found {s : StoreId} {name bind : String} {v : View} (hs : x.store = some s)
      (h : x.database.collection? s name = .ok (some v)) :
      Obtains x (.onStore (.collection name bind)) s name v

/-! ## One collection at a time -/

/-- The edit of an operation that goes through to a collection is one of its
data. -/
theorem Through.root_of_edit? (h : x.Through a r) {e : Edit} (he : x.edit? a = some (s, e)) :
    e.root? = some r := by
  cases h with
  | @view view v a hview =>
    obtain ⟨w, hw, -, he⟩ := edit?_onView_eq_some_iff.1 he
    obtain rfl : v = w := Option.some.inj (hview.symm.trans hw)
    exact View.root_of_edit? he
  | @handle handle h a hhandle =>
    obtain ⟨d, hd, -, he⟩ := edit?_onHandle_eq_some_iff.1 he
    obtain rfl : h = d := Option.some.inj (hhandle.symm.trans hd)
    exact Handle.root_of_edit? he

/-- **Other collections stay as they are.** -/
theorem entries_step_of_through (hx : x.Sound) (h : x.Through a r) (hne : r' ≠ r) :
    (x.step a).1.database.entries r' = x.database.entries r' := by
  rcases entries_step hx a r' with ⟨s, e, he, -, hrewrite⟩ | ⟨-, hsame⟩ | ⟨hloads, -⟩
  · have hroot : e.root? ≠ some r' := by
      intro heq
      rw [h.root_of_edit? he] at heq
      exact hne (Option.some.inj heq).symm
    rw [hrewrite, e.rewrite_of_ne hroot]
  · exact hsame
  · cases h <;> cases hloads

/-! ## Names -/

/-- Edits of data leave the names alone. -/
theorem rename_of_root? {e : Edit} (h : e.root? = some r) (root : RootId)
    (names : Bindings RootId) : e.rename root names = names := by
  cases e with
  | create name => cases h
  | dismiss name => cases h
  | _ => rfl

/-- The names of the stores after an operation that makes an edit. -/
theorem collections_step_of_edit? (hx : x.Sound) {e : Edit} (he : x.edit? a = some (s, e))
    (t : StoreId) : (x.step a).1.database.collections? t =
      if s = t then (x.database.collections? t).map fun names =>
        e.rename x.database.roots.length names
      else x.database.collections? t := by
  rcases database_step hx a with hf | ⟨config, db, rfl, -⟩
  · rw [hf.sameData.collections, effect_of_edit? he, sameData_mark.collections,
      collections_perform (hx.allowed he)]
  · cases he

/-- **What goes through a view or a handle leaves the names of all stores
alone.** -/
theorem collections_step_of_through (hx : x.Sound) (h : x.Through a r) (t : StoreId) :
    (x.step a).1.database.collections? t = x.database.collections? t := by
  have hreopen (config : Config) : a ≠ .reopen config := by
    rintro rfl
    cases h
  rw [(step_effect hx hreopen).sameData.collections]
  rcases effect_cases x a with ⟨s, e, he, heq⟩ | ⟨-, heq | ⟨s, rfl, -⟩ | ⟨b, rfl, -⟩⟩
  · rw [heq, sameData_mark.collections, collections_perform (hx.allowed he)]
    simp only [rename_of_root? (h.root_of_edit? he), Option.map_id', ite_self]
  · rw [heq]
  · cases h
  · cases h

/-- **What is done to data without a name shows in no snapshot.** -/
theorem snapshot?_step_of_detached (hx : x.Sound) (h : x.Through a r)
    (hr : x.database.Detached r) (t : StoreId) :
    (x.step a).1.database.snapshot? t = x.database.snapshot? t := by
  refine snapshot?_congr (collections_step_of_through hx h t) fun r' howns => ?_
  have hne : r' ≠ r := by
    rintro rfl
    exact hr.unnamed t howns
  exact entries_step_of_through hx h hne

/-- Names are given to new data only, so that data stays without one. -/
theorem detached_step (hx : x.Sound) (hr : x.database.Detached r) (a : Action) :
    (x.step a).1.database.Detached r where
  lt := Nat.lt_of_lt_of_le hr.lt (evolves_step hx a).roots
  unnamed s howns := by
    obtain ⟨s₀, hextends⟩ := extends_step hx a
    rcases hextends s r howns with hbefore | ⟨hnew, -⟩
    · exact hr.unnamed s hbefore
    · exact absurd hr.lt (Nat.not_lt.2 hnew)

/-- What takes a name away is the removal of its collection. -/
theorem dismisses_of_edit? (he : x.edit? a = some (s, .dismiss name)) : x.Dismisses a s name := by
  cases a with
  | onStore a =>
    obtain ⟨hs, he⟩ := edit?_onStore_eq_some_iff.1 he
    cases a with
    | removeCollection name' =>
      obtain ⟨names, -, heq⟩ := Option.map_eq_some_iff.1 he
      cases heq
      exact ⟨rfl, hs⟩
    | createCollection name' bind =>
      obtain ⟨names, -, he⟩ := Option.bind_eq_some_iff.1 he
      cases (Option.ite_none_left_eq_some.1 he).2
    | _ => cases he
  | onView view a =>
    obtain ⟨v, -, -, he⟩ := edit?_onView_eq_some_iff.1 he
    cases View.root_of_edit? he
  | onHandle handle a =>
    obtain ⟨h, -, -, he⟩ := edit?_onHandle_eq_some_iff.1 he
    cases Handle.root_of_edit? he
  | _ => cases he

/-- **Taking its name away detaches a collection**, since it has no other, in
this store or another. -/
theorem detached_of_dismisses (hx : x.Sound) (ho : x.Owned) (hd : x.Dismisses a s name)
    (hr : x.database.Attached s name r) : (x.step a).1.database.Detached r := by
  obtain ⟨rfl, hs⟩ := hd
  obtain ⟨names, hnames, hget⟩ := hr
  have hmem : (name, r) ∈ names := Bindings.mem_of_get? hget
  have hnamed := hx.database.named s names hnames
  have he : x.edit? (.onStore (.removeCollection name)) = some (s, .dismiss name) :=
    edit?_onStore_eq_some_iff.2 ⟨hs, by rw [Database.edit?, hnames]; rfl⟩
  refine ⟨Nat.lt_of_lt_of_le (hnamed.root_lt name r hmem) (evolves_step hx _).roots, ?_⟩
  -- a name that is left is another one in this store, or one in another store
  rintro t ⟨names', name', hnames', hmem'⟩
  rw [collections_step_of_edit? hx he] at hnames'
  split at hnames'
  · next hst =>
    subst hst
    rw [hnames] at hnames'
    obtain rfl := Option.some.inj hnames'
    obtain ⟨hold, hne⟩ := List.mem_filter.1 hmem'
    exact absurd (hnamed.apart name' name r hold hmem) (by simpa using hne)
  · next hst =>
    exact hst (ho.apart s t r ⟨names, name, hnames, hmem⟩ ⟨names', name', hnames', hmem'⟩)

/-- A name stays with its data until it is taken away. -/
theorem attached_step (hx : x.Sound) (hr : x.database.Attached s name r)
    (hnot : ¬ x.Dismisses a s name) : (x.step a).1.database.Attached s name r := by
  obtain ⟨names, hnames, hget⟩ := hr
  cases he : x.edit? a with
  | none =>
    have hother : ∀ e, x.edit? a ≠ some (s, e) := fun e heq => by
      rw [he] at heq
      cases heq
    exact ⟨names, collections_step hx hnames hother, hget⟩
  | some made =>
    obtain ⟨t, e⟩ := made
    by_cases hts : t = s
    · -- the names of the store may change, but what is given or taken is another name
      subst hts
      have hrename : (e.rename x.database.roots.length names).get? name = some r := by
        cases e with
        | create name' =>
          obtain ⟨names', hnames', hnew⟩ := hx.allowed he
          have hne : name' ≠ name := by
            rintro rfl
            obtain rfl : names = names' := Option.some.inj (hnames.symm.trans hnames')
            exact hnew (Bindings.mem_keys_iff.2 ⟨r, Bindings.mem_of_get? hget⟩)
          rw [Edit.rename, Bindings.get?_insert, if_neg hne, hget]
        | dismiss name' =>
          have hne : name' ≠ name := by
            rintro rfl
            exact hnot (dismisses_of_edit? he)
          rw [Edit.rename, Bindings.get?_erase, if_neg hne, hget]
        | _ => exact hget
      refine ⟨e.rename x.database.roots.length names, ?_, hrename⟩
      rw [collections_step_of_edit? hx he, if_pos rfl, hnames]
      rfl
    · refine ⟨names, ?_, hget⟩
      rw [collections_step_of_edit? hx he, if_neg hts, hnames]

/-- **A view that is obtained by a name** is the whole collection that has the
name from then on. -/
theorem attached_of_obtains (hx : x.Sound) (h : x.Obtains a s name v) :
    (x.step a).1.database.Attached s name v.root ∧ v = .whole s v.root name := by
  cases h with
  | @made s name bind v db hs hcreate =>
    obtain ⟨he, rfl, -⟩ := createCollection_ok hcreate
    have he : x.edit? (.onStore (.createCollection name bind)) = some (s, .create name) :=
      edit?_onStore_eq_some_iff.2 ⟨hs, he⟩
    obtain ⟨names, hnames, -⟩ := hx.allowed he
    refine ⟨⟨names.insert name x.database.roots.length, ?_, ?_⟩, rfl⟩
    · rw [collections_step_of_edit? hx he, if_pos rfl, hnames]
      rfl
    · rw [Bindings.get?_insert, if_pos rfl]
      rfl
  | @found s name bind v hs hfound =>
    obtain ⟨r, hr, rfl⟩ := collection?_eq_some_iff.1 hfound
    have hnot : ¬ x.Dismisses (.onStore (.collection name bind)) s name := fun hd => by cases hd.1
    exact ⟨attached_step hx hr hnot, rfl⟩

/-! ## Runs -/

variable {actions : List Action} {i j m : Nat}

/-- Between two moments of a run, each not counted, the name of a collection
was taken away. -/
def DismissedBetween (x : Session) (actions : List Action) (s : StoreId) (name : String)
    (i m : Nat) : Prop :=
  ∃ k b, i < k ∧ k < m ∧ actions[k]? = some b ∧ (x.moment actions k).Dismisses b s name

theorem dismissedBetween_succ_iff (him : i < m) :
    DismissedBetween x actions s name i (m + 1) ↔
      DismissedBetween x actions s name i m ∨
        ∃ b, actions[m]? = some b ∧ (x.moment actions m).Dismisses b s name := by
  constructor
  · rintro ⟨k, b, hik, hkm, hb, hd⟩
    rcases Nat.lt_succ_iff_lt_or_eq.1 hkm with hkm | rfl
    · exact .inl ⟨k, b, hik, hkm, hb, hd⟩
    · exact .inr ⟨b, hb, hd⟩
  · rintro (⟨k, b, hik, hkm, hb, hd⟩ | ⟨b, hb, hd⟩)
    · exact ⟨k, b, hik, Nat.lt_succ_of_lt hkm, hb, hd⟩
    · exact ⟨m, b, him, Nat.lt_succ_self m, hb, hd⟩

/-- Data without a name has none at any later moment. -/
theorem detached_moment (hx : x.Sound) {t : Nat} (htm : t ≤ m)
    (hr : (x.moment actions t).database.Detached r) :
    (x.moment actions m).database.Detached r :=
  moment_le_induction (P := fun y => y.database.Detached r) htm hr
    fun k a _ _ _ h => detached_step (hx.moment actions k) h a

/-- **Data has its name until it is taken away, and never after.** -/
theorem attached_or_detached (hx : x.Sound) (ho : x.Owned) (ha : actions[i]? = some a)
    (h : (x.moment actions i).Obtains a s name v) (him : i < m) :
    (¬ DismissedBetween x actions s name i m ∧
        (x.moment actions m).database.Attached s name v.root) ∨
      (DismissedBetween x actions s name i m ∧
        (x.moment actions m).database.Detached v.root) := by
  induction him with
  | refl =>
    refine .inl ⟨?_, ?_⟩
    · rintro ⟨k, -, hik, hki, -⟩
      omega
    · rw [moment_succ ha]
      exact (attached_of_obtains (hx.moment actions i) h).1
  | @step m him ih =>
    have hsound := hx.moment actions m
    rw [dismissedBetween_succ_iff him]
    rcases ih with ⟨hnot, hattached⟩ | ⟨hgone, hdetached⟩
    · cases hb : actions[m]? with
      | none =>
        rw [moment_succ_of_none hb]
        refine .inl ⟨?_, hattached⟩
        rintro (hgone | ⟨b, hb', -⟩)
        · exact hnot hgone
        · cases hb'
      | some b =>
        rw [moment_succ hb]
        -- this step may be the one that takes the name away
        by_cases hd : (x.moment actions m).Dismisses b s name
        · exact .inr ⟨.inr ⟨b, rfl, hd⟩,
            detached_of_dismisses hsound (ho.moment hx actions m) hd hattached⟩
        · refine .inl ⟨?_, attached_step hsound hattached hd⟩
          rintro (hgone | ⟨b', hb', hd'⟩)
          · exact hnot hgone
          · cases hb'
            exact hd hd'
    · exact .inr ⟨.inl hgone, detached_moment hx (Nat.le_succ m) hdetached⟩

/-- **Two views that were obtained by one name** are the same, or of different
data if the name was taken away between. -/
theorem obtained_eq_or (hx : x.Sound) (ho : x.Owned) {b : Action} (hij : i < j)
    (ha : actions[i]? = some a) (hv : (x.moment actions i).Obtains a s name v)
    (hb : actions[j]? = some b) (hw : (x.moment actions j).Obtains b s name w) :
    (¬ DismissedBetween x actions s name i j ∧ v = w) ∨
      (DismissedBetween x actions s name i j ∧ v.root ≠ w.root) := by
  have hsound := hx.moment actions j
  obtain ⟨hattached, hwhole⟩ := attached_of_obtains hsound hw
  have hnot : ¬ (x.moment actions j).Dismisses b s name := by
    intro hd
    cases hw <;> cases hd.1
  rcases attached_or_detached hx ho ha hv hij with ⟨hkept, hold⟩ | ⟨hgone, hold⟩
  · refine .inl ⟨hkept, ?_⟩
    -- the name is still that of the first view's data, and no other has it
    have hroot : v.root = w.root := (attached_step hsound hold hnot).unique hattached
    rw [(attached_of_obtains (hx.moment actions i) hv).2, hwhole, hroot]
  · refine .inr ⟨hgone, fun hroot => ?_⟩
    exact (detached_step hsound hold b).unnamed s (hroot ▸ hattached.owns)

/-! ## Data at work -/

/-- A view that is held works on the data of its collection: it sees what it
admits of it, and what it adds, updates and removes is added, updated and
removed there. -/
structure ViewWorks (x : Session) (view : String) (v : View) : Prop where
  visible : v.visible x.database =
    (x.database.entries v.root).filter fun e => v.admits e.1 e.2
  count : (x.step (.onView view .count)).2 = .ok (.number (v.visible x.database).length)
  get : (x.step (.onView view .get)).2 = .ok (.values (v.get x.database))
  add : ∀ members id,
    (Document.explicitId? members = some id ∧ id ∉ Bindings.keys (x.database.entries v.root)) ∨
      (Document.explicitId? members = none ∧ ∃ words, Identifier.draw?
        (fun id => (x.database.entries v.root).contains id) x.database.words = some (id, words)) →
    let after := x.step (.onView view (.add (.object members)))
    after.2 = .ok (.id id) ∧ after.1.database.entries v.root =
      x.database.entries v.root ++ [(id, ⟨x.database.generation, members.erase idField⟩)]
  update : ∀ p, let after := x.step (.onView view (.update p))
    after.2 = .ok (.number (v.visible x.database).length) ∧ after.1.database.entries v.root =
      (x.database.entries v.root).map fun e =>
        (e.1, if v.admits e.1 e.2 then e.2.patch p else e.2)
  remove : let after := x.step (.onView view .remove)
    after.2 = .ok (.number (v.visible x.database).length) ∧ after.1.database.entries v.root =
      (x.database.entries v.root).filter fun e => !v.admits e.1 e.2

/-- A handle that is held works on the document it stands for. -/
structure HandleWorks (x : Session) (handle : String) (h : Handle) : Prop where
  isPresent : (x.step (.onHandle handle .isPresent)).2 = .ok (.flag (h.isPresent x.database))
  get : (x.step (.onHandle handle .get)).2 = .ok (.value (h.get? x.database))
  update : ∀ p, h.isPresent x.database = true →
    let after := x.step (.onHandle handle (.update p))
    after.2 = .ok .done ∧ after.1.database.entries h.root =
      (x.database.entries h.root).map fun e =>
        (e.1, if h.selects e.1 e.2 then e.2.patch p else e.2)
  remove : h.isPresent x.database = true →
    let after := x.step (.onHandle handle .remove)
    after.2 = .ok (.flag true) ∧ after.1.database.entries h.root =
      (x.database.entries h.root).filter fun e => !h.selects e.1 e.2

/-- **Every view that is held works.** -/
theorem Sound.viewWorks (hx : x.Sound) {view : String} (hview : x.views.get? view = some v) :
    x.ViewWorks view v := by
  have hfits := (hx.view view v hview).fits
  have hd := hx.database.distinct v.root
  have hedit {a : ViewAction} {e : Edit} (he : v.edit? x.database a = some e) :
      (x.step (.onView view a)).1.database.entries v.root =
        e.rewrite x.database.generation v.root (x.database.entries v.root) :=
    entries_step_of_edit? hx (edit?_onView_eq_some_iff.2 ⟨v, hview, rfl, he⟩) v.root
  refine ⟨View.visible_eq_filter hfits hd, ?_, ?_, fun members id hid => ?_, fun p => ⟨?_, ?_⟩,
    ?_, ?_⟩
  · rw [step_onView hview]
    rfl
  · rw [step_onView hview]
    rfl
  · -- the id is the one that was asked for, or the one that was drawn
    obtain ⟨words, he⟩ : ∃ words, v.edit? x.database (.add (.object members)) =
        some (.put v.root id (Bindings.erase members idField) words) := by
      rcases hid with ⟨hid, hfree⟩ | ⟨hid, words, hdraw⟩
      · refine ⟨x.database.words, ?_⟩
        rw [← Bindings.contains_iff] at hfree
        simp only [View.edit?, hid, if_neg hfree]
      · exact ⟨words, by simp only [View.edit?, hid, hdraw, Option.map_some]⟩
    refine ⟨?_, ?_⟩
    · rw [step_onView hview, onView, View.add_eq_ok_iff.2 ⟨_, _, he, rfl⟩]
      rfl
    · rw [hedit he, Edit.rewrite, if_pos rfl]
  · rw [step_onView hview, onView, View.update_eq hfits hd]
    rfl
  · rw [hedit (a := .update p) rfl, Edit.rewrite, if_pos rfl]
  · rw [step_onView hview, onView, View.remove_eq hfits hd]
    rfl
  · rw [hedit (a := .remove) rfl, Edit.rewrite, if_pos rfl]

/-- **Every handle that is held works.** -/
theorem Sound.handleWorks (hx : x.Sound) {handle : String} {h : Handle}
    (hhandle : x.handles.get? handle = some h) : x.HandleWorks handle h := by
  have hd := hx.database.distinct h.root
  have hedit {a : HandleAction} {e : Edit} (he : h.edit? x.database a = some e) :
      (x.step (.onHandle handle a)).1.database.entries h.root =
        e.rewrite x.database.generation h.root (x.database.entries h.root) :=
    entries_step_of_edit? hx (edit?_onHandle_eq_some_iff.2 ⟨h, hhandle, rfl, he⟩) h.root
  refine ⟨?_, ?_, fun p hp => ⟨?_, ?_⟩, fun hp => ⟨?_, ?_⟩⟩
  · rw [step_onHandle hhandle]
    rfl
  · rw [step_onHandle hhandle]
    rfl
  · rw [step_onHandle hhandle, onHandle, Handle.update_eq hd hp]
    rfl
  · rw [hedit (a := .update p) (if_pos hp), Edit.rewrite, if_pos rfl]
  · rw [step_onHandle hhandle, onHandle, Handle.remove_eq hd hp]
    rfl
  · rw [hedit (a := .remove) (if_pos hp), Edit.rewrite, if_pos rfl]

/-- **Collections are isolated.** At every moment of a run, what goes through a
view or a handle of one collection leaves the data of every other as it is.
Once a collection's name was taken away, its data is without a name for good:
nothing that goes through a view or handle of it changes a snapshot or the
names of a store, whatever was made under the name since, while its views and
handles go on working on it. And two views obtained by one name of a store, by
whoever holds the store, are of one collection and the same to work with at
every moment, unless the name was taken away between; then they are of two. -/
theorem collections_are_isolated (host : Host) (config : Config) (words : List UInt32)
    (actions : List Action) :
    let x := start host config words
    (∀ t a r, (x.moment actions t).Through a r → ∀ r', r' ≠ r →
      ((x.moment actions t).step a).1.database.entries r' =
        (x.moment actions t).database.entries r') ∧
    (∀ n b s name r t, actions[n]? = some b → (x.moment actions n).Dismisses b s name →
      (x.moment actions n).database.Attached s name r → n < t →
      let y := x.moment actions t
      y.database.Detached r ∧
      (∀ a, y.Through a r → ∀ s',
        (y.step a).1.database.snapshot? s' = y.database.snapshot? s' ∧
        (y.step a).1.database.collectionNames s' = y.database.collectionNames s') ∧
      (∀ view v, y.views.get? view = some v → v.root = r → y.ViewWorks view v) ∧
      ∀ handle h, y.handles.get? handle = some h → h.root = r → y.HandleWorks handle h) ∧
    ∀ i j a b s name v w, i < j →
      actions[i]? = some a → (x.moment actions i).Obtains a s name v →
      actions[j]? = some b → (x.moment actions j).Obtains b s name w →
      (DismissedBetween x actions s name i j → v.root ≠ w.root) ∧
      (¬ DismissedBetween x actions s name i j → ∀ t, let y := x.moment actions t
        v.visible y.database = y.database.entries v.root ∧
        w.visible y.database = y.database.entries v.root ∧
        ∀ c d, y.views.get? c = some v → y.views.get? d = some w →
          ∀ a, y.step (.onView c a) = y.step (.onView d a)) := by
  intro x
  have hx : x.Sound := sound_start host config words
  have ho : x.Owned := owned_start host config words
  refine ⟨fun t a r h r' hne => entries_step_of_through (hx.moment actions t) h hne,
    fun n b s name r t hb hd hr hnt => ?_, fun i j a b s name v w hij ha hv hb hw => ?_⟩
  · intro y
    have hy : y.Sound := hx.moment actions t
    have hdetached : y.database.Detached r := by
      refine detached_moment hx (Nat.succ_le_of_lt hnt) ?_
      rw [moment_succ hb]
      exact detached_of_dismisses (hx.moment actions n) (ho.moment hx actions n) hd hr
    refine ⟨hdetached, fun a h s' => ⟨snapshot?_step_of_detached hy h hdetached s', ?_⟩,
      fun view v hview _ => hy.viewWorks hview, fun handle h hhandle _ => hy.handleWorks hhandle⟩
    rw [collectionNames, collectionNames, collections_step_of_through hy h]
  · rcases obtained_eq_or hx ho hij ha hv hb hw with ⟨hkept, heq⟩ | ⟨hgone, hne⟩
    · refine ⟨fun hgone => absurd hgone hkept, fun _ t => ?_⟩
      have hwhole := (attached_of_obtains (hx.moment actions i) hv).2
      subst heq
      refine ⟨by rw [hwhole]; rfl, by rw [hwhole]; rfl, fun c d hc hd a => ?_⟩
      rw [step_onView hc, step_onView hd]
    · exact ⟨fun _ => hne, fun hkept => absurd hgone hkept⟩

/-- A run that takes a collection's name away, makes another of the name and
goes on with the first. -/
def detaching : List Action :=
  [.onStore .init, .onStore (.createCollection "t" "c"),
    .onView "c" (.add (.object [("_id", .string "a")])),
    .onStore (.removeCollection "t"), .onStore (.createCollection "t" "d"),
    .onView "c" (.add (.object [("_id", .string "b")]))]

/-- The moments of that run, on a host in memory. -/
def detachingAt (m : Nat) : Session := (start (.memory (.new none)) .manual []).moment detaching m

/-- The first collection holds two documents then, and no snapshot shows that
they are removed. -/
theorem collections_are_isolated_detaching :
    (detachingAt 3).Dismisses (.onStore (.removeCollection "t")) 0 "t" ∧
      (detachingAt 3).database.Attached 0 "t" 0 ∧
      Bindings.keys ((detachingAt 6).database.entries 0) = ["a", "b"] ∧
      (detachingAt 6).database.snapshot? 0 = some (.object [("t", .object [])]) ∧
      (detachingAt 6).Through (.onView "c" .remove) 0 ∧
      ((detachingAt 6).step (.onView "c" .remove)).1.database.snapshot? 0 =
        (detachingAt 6).database.snapshot? 0 ∧
      ((detachingAt 6).step (.onView "c" .remove)).2 = .ok (.number 2) := by
  have hd : (detachingAt 3).Dismisses (.onStore (.removeCollection "t")) 0 "t" := ⟨rfl, rfl⟩
  have hr : (detachingAt 3).database.Attached 0 "t" 0 := ⟨[("t", 0)], by decide, rfl⟩
  have hview : (detachingAt 6).views.get? "c" = some (.whole 0 0 "t") := by cbv
  have hcount : ((View.whole 0 0 "t").visible (detachingAt 6).database).length = 2 := by decide
  have hthrough : (detachingAt 6).Through (.onView "c" .remove) 0 := .view .remove hview
  have hmain := collections_are_isolated (.memory (.new none)) .manual [] detaching
  obtain ⟨-, hsnapshot, hworks, -⟩ := hmain.2.1 3 _ 0 "t" 0 6 rfl hd hr (by decide)
  refine ⟨hd, hr, by decide, by cbv, hthrough, (hsnapshot _ hthrough 0).1, ?_⟩
  have hanswer : ((detachingAt 6).step (.onView "c" .remove)).2 =
      .ok (.number ((View.whole 0 0 "t").visible (detachingAt 6).database).length) :=
    (hworks "c" (.whole 0 0 "t") hview rfl).remove.1
  rw [hanswer, hcount]

end Session

end DocumentStore
