import DocumentStore.Proofs.Run

/-!
# The field of the id — when a document stores it

The id of a document is the key it is stored under, and a field of that
name is taken out of every document that is added or loaded. A patch is not
looked at this way: one that makes something of the field where it is
absent puts it into every document it is applied to (`Session.WritesId`).
Such an update is the only way the field comes to be stored, and it always
does it: the stored documents of a run are free of the field (`IdFree`)
just as long as no such update was made (`id_free_iff`).
-/

namespace DocumentStore

/-! ## Patches, seen from one field -/

namespace Patch

/-- What the changes of one field, one after the other, make of its value. -/
def effect (p : Patch) (name : String) (field : Option Value) : Option Value :=
  p.foldl (fun field change => if change.1 = name then change.2.apply field else field) field

theorem get?_applyField (doc : Document) (name : String) (update : FieldUpdate) (k : String) :
    (applyField doc name update).get? k =
      if name = k then update.apply (doc.get? k) else doc.get? k :=
  doc.get?_change name update.apply k

/-- **A patch changes a field** by its changes of that field. -/
theorem get?_apply (p : Patch) (doc : Document) (name : String) :
    (p.apply doc).get? name = p.effect name (doc.get? name) := by
  unfold apply effect
  induction p generalizing doc with
  | nil => rfl
  | cons change rest ih =>
    obtain ⟨field, update⟩ := change
    simp only [List.foldl_cons]
    rw [ih (applyField doc field update), get?_applyField]

/-- A document without a field has it after a patch just if the patch makes
something of nothing there. -/
theorem mem_keys_apply_iff {p : Patch} {doc : Document} {name : String}
    (h : name ∉ Bindings.keys doc) :
    name ∈ Bindings.keys (p.apply doc) ↔ (p.effect name none).isSome := by
  rw [← Bindings.contains_iff, Bindings.contains, get?_apply, Bindings.get?_eq_none_iff.2 h]

end Patch

/-- The patch an operation on a view applies, if it is an update. -/
def ViewAction.patch? : ViewAction → Option Patch
  | .update p => some p
  | .updateValue value => (Patch.ofValue? value).toOption
  | _ => none

/-- The patch an operation on a handle applies, if it is an update. -/
def HandleAction.patch? : HandleAction → Option Patch
  | .update p => some p
  | .updateValue value => (Patch.ofValue? value).toOption
  | _ => none

theorem View.edit?_eq_patch_iff {v : View} {db : Database} {a : ViewAction} {r : RootId}
    {selects : String → Entry → Bool} {p : Patch} :
    v.edit? db a = some (.patch r selects p) ↔
      a.patch? = some p ∧ v.root = r ∧ v.admits = selects := by
  cases a with
  | add document =>
    refine iff_of_false (fun he => ?_) (by simp [ViewAction.patch?])
    obtain ⟨id, fields, words, heq, -⟩ := View.edit?_add he
    cases heq
  | updateValue value =>
    cases hp : Patch.ofValue? value with
    | error e => simp [View.edit?, ViewAction.patch?, hp, Except.toOption]
    | ok p' =>
      simp only [View.edit?, ViewAction.patch?, hp, Except.toOption, Option.map_some,
        Option.some.injEq, Edit.patch.injEq]
      tauto
  | update p' =>
    simp only [View.edit?, ViewAction.patch?, Option.some.injEq, Edit.patch.injEq]
    tauto
  | _ => simp [View.edit?, ViewAction.patch?]

theorem Handle.edit?_eq_patch_iff {h : Handle} {db : Database} {a : HandleAction} {r : RootId}
    {selects : String → Entry → Bool} {p : Patch} :
    h.edit? db a = some (.patch r selects p) ↔
      h.isPresent db = true ∧ a.patch? = some p ∧ h.root = r ∧ h.selects = selects := by
  cases a with
  | updateValue value =>
    cases hp : Patch.ofValue? value with
    | error e => simp [Handle.edit?, HandleAction.patch?, hp, Except.toOption]
    | ok p' =>
      simp only [Handle.edit?, HandleAction.patch?, hp, Except.toOption, Option.map_some,
        Option.ite_none_right_eq_some, Option.some.injEq, Edit.patch.injEq]
      tauto
  | update p' =>
    simp only [Handle.edit?, HandleAction.patch?, Option.ite_none_right_eq_some,
      Option.some.injEq, Edit.patch.injEq]
    tauto
  | _ => simp [Handle.edit?, HandleAction.patch?]

/-! ## Free of the field -/

/-- No stored document has a field of the id's name. -/
def Database.IdFree (db : Database) : Prop :=
  ∀ r id e, (id, e) ∈ db.entries r → idField ∉ Bindings.keys e.fields

/-- No document in a snapshot has a field of the id's name. -/
def Value.IdFree (snapshot : Value) : Prop :=
  ∀ collections, snapshot = .object collections →
    ∀ name documents, (name, .object documents) ∈ collections →
      ∀ id fields, (id, .object fields) ∈ documents → idField ∉ Bindings.keys fields

/-- The snapshots of free documents are free. -/
theorem Database.IdFree.snapshot {db : Database} (h : db.IdFree) {s : StoreId} {v : Value}
    (hv : db.snapshot? s = some v) : v.IdFree := by
  rintro collections rfl name documents hname id fields hid
  obtain ⟨names, -, heq⟩ := Option.map_eq_some_iff.1 hv
  cases heq
  obtain ⟨⟨name', root⟩, -, heq⟩ := List.mem_map.1 hname
  cases heq
  obtain ⟨⟨id', e⟩, he, heq⟩ := List.mem_map.1 hid
  cases heq
  exact h root id e he

namespace Session

open Database

variable {x : Session} {a : Action} {actions : List Action} {t : Nat}

/-- The operation updates a document with a patch that makes a field of the
id's name where there is none. -/
inductive WritesId (x : Session) : Action → Prop
  | view {view : String} {v : View} {a : ViewAction} {p : Patch}
      (hview : x.views.get? view = some v) (hp : a.patch? = some p)
      (hseen : v.visible x.database ≠ []) (hid : (p.effect idField none).isSome) :
      WritesId x (.onView view a)
  | handle {handle : String} {h : Handle} {a : HandleAction} {p : Patch}
      (hhandle : x.handles.get? handle = some h) (hp : a.patch? = some p)
      (hpresent : h.isPresent x.database = true) (hid : (p.effect idField none).isSome) :
      WritesId x (.onHandle handle a)

/-- The edit behind it patches some entry. -/
theorem writesId_iff (hx : x.Sound) : x.WritesId a ↔
    ∃ s r selects p, x.edit? a = some (s, .patch r selects p) ∧
      (∃ id e, (id, e) ∈ x.database.entries r ∧ selects id e = true) ∧
      (p.effect idField none).isSome := by
  constructor
  · intro h
    cases h with
    | @view view v a p hview hp hseen hid =>
      refine ⟨v.store, v.root, v.admits, p, ?_, ?_, hid⟩
      · simp [edit?, hview, View.edit?_eq_patch_iff.2 ⟨hp, rfl, rfl⟩]
      · obtain ⟨⟨id, e⟩, he⟩ := List.exists_mem_of_ne_nil _ hseen
        obtain ⟨hmem, hadmits⟩ := (hx.mem_visible_iff hview).1 he
        exact ⟨id, e, hmem, hadmits⟩
    | @handle handle h a p hhandle hp hpresent hid =>
      refine ⟨h.store, h.root, h.selects, p, ?_, ?_, hid⟩
      · simp [edit?, hhandle, Handle.edit?_eq_patch_iff.2 ⟨hpresent, hp, rfl, rfl⟩]
      · obtain ⟨e, hmem, hpin⟩ := (Handle.isPresent_iff (hx.database.distinct h.root)).1 hpresent
        exact ⟨h.id, e, hmem, by simp [Handle.selects, hpin]⟩
  · rintro ⟨s, r, selects, p, he, ⟨id, e, hmem, hsel⟩, hid⟩
    cases a with
    | onView view a =>
      obtain ⟨v, hview, -, he⟩ := edit?_onView_eq_some_iff.1 he
      obtain ⟨hp, rfl, rfl⟩ := View.edit?_eq_patch_iff.1 he
      exact .view hview hp (List.ne_nil_of_mem ((hx.mem_visible_iff hview).2 ⟨hmem, hsel⟩)) hid
    | onHandle handle a =>
      obtain ⟨h, hhandle, -, he⟩ := edit?_onHandle_eq_some_iff.1 he
      obtain ⟨hpresent, hp, -, -⟩ := Handle.edit?_eq_patch_iff.1 he
      exact .handle hhandle hp hpresent hid
    | onStore a =>
      obtain ⟨name, heq | heq⟩ := exists_name_of_edit? (edit?_onStore_eq_some_iff.1 he).2 <;>
        cases heq
    | _ => cases he

/-- **One step keeps the documents free of the field** just if it does not
write it. -/
theorem idFree_step_iff (hx : x.Sound) (hfree : x.database.IdFree) :
    (x.step a).1.database.IdFree ↔ ¬ x.WritesId a := by
  rw [writesId_iff hx]
  constructor
  · rintro hafter ⟨s, r, selects, p, he, ⟨id, e, hmem, hsel⟩, hid⟩
    -- the entry that is patched has the field after the step
    refine hafter r id (e.patch p) ?_ ((Patch.mem_keys_apply_iff (hfree r id e hmem)).2 hid)
    rw [entries_step_of_edit? hx he, Edit.rewrite, if_pos rfl]
    exact List.mem_map.2 ⟨(id, e), hmem, by simp [hsel]⟩
  · intro hwrites r id e' hmem
    rcases entries_step hx a r with ⟨s, edit, he, ha, hentries⟩ | ⟨-, hentries⟩ | ⟨-, -, hfresh⟩
    · rw [hentries] at hmem
      rcases Edit.mem_rewrite hmem with ⟨e, hold, rfl | ⟨selects, p, rfl, hsel, rfl⟩⟩ |
        ⟨fields, words, rfl, rfl⟩
      · exact hfree r id e' hold
      · intro hid
        refine hwrites ⟨s, r, selects, p, he, ⟨id, e, hold, hsel⟩, ?_⟩
        exact (Patch.mem_keys_apply_iff (hfree r id e hold)).1 hid
      · exact ha.2.2.2.2
    · exact hfree r id e' (hentries ▸ hmem)
    · exact hfresh.no_id id e' hmem

/-- **When stored documents are free of the id's field.** They are up to a
moment of a run just if no operation before it wrote the field, and then
the snapshots are too. -/
theorem id_free_iff (host : Host) (config : Config) (words : List UInt32) (actions : List Action)
    (t : Nat) :
    let x := start host config words
    ((∀ m ≤ t, (x.moment actions m).database.IdFree) ↔
      ∀ m < t, ∀ a, actions[m]? = some a → ¬ (x.moment actions m).WritesId a) ∧
    ∀ m, (x.moment actions m).database.IdFree →
      ∀ s v, (x.moment actions m).database.snapshot? s = some v → v.IdFree := by
  intro x
  have hx : x.Sound := sound_start host config words
  refine ⟨⟨fun hfree m hm a ha => ?_, fun hwrites m hm => ?_⟩,
    fun m hfree s v hv => hfree.snapshot hv⟩
  · rw [← idFree_step_iff (hx.moment actions m) (hfree m (Nat.le_of_lt hm)), ← moment_succ ha]
    exact hfree (m + 1) hm
  · induction m with
    | zero => exact fun r id e he => by cases he
    | succ m ih =>
      cases ha : actions[m]? with
      | none => rw [moment_succ_of_none ha]; exact ih (Nat.le_of_succ_le hm)
      | some a =>
        rw [moment_succ ha, idFree_step_iff (hx.moment actions m) (ih (Nat.le_of_succ_le hm))]
        exact hwrites m hm a ha

/-- A run that sets the id's field of a document. -/
def shadowing : List Action :=
  [.onStore .init, .onStore (.createCollection "t" "c"),
    .onView "c" (.add (.object [("_id", .string "a"), ("x", .bool true)])),
    .onView "c" (.updateValue (.object [("_id", .string "b")]))]

/-- The field is stored then, and the snapshot shows it. -/
theorem not_idFree_shadowing :
    let db := ((start (.memory (.new none)) .manual []).moment shadowing 4).database
    db.snapshot? 0 = some (.object [("t", .object [("a",
      .object [("x", .bool true), ("_id", .string "b")])])]) ∧ ¬ db.IdFree := by
  intro db
  have hstored : db.entries 0 = [("a", ⟨1, [("x", .bool true), ("_id", .string "b")]⟩)] := rfl
  refine ⟨rfl, fun hfree => ?_⟩
  exact hfree 0 "a" _ (hstored ▸ List.mem_cons_self) (by decide)

end Session

end DocumentStore
