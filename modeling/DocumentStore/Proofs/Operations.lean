import DocumentStore.Proofs.Scope

/-!
# Operations as edits

`Database.edit?`, `View.edit?` and `Handle.edit?` say which edit an operation
of a store, a view or a handle makes, if it makes one. The operations are
those edits, each followed by a touch of the store
(`Database.createCollection_ok`, `Database.removeCollection_ok`,
`View.add_eq_ok_iff`, `View.update_eq`, `View.remove_eq`,
`Handle.update_eq`, `Handle.remove_eq`), and the edits are allowed on a
sound database, for views and handles as operations make them (`View.Sound`,
`Handle.Sound`).
-/

namespace DocumentStore

/-! ## Ids asked for and drawn -/

theorem integerText_ne_nil (n : Int) : integerText n ≠ [] := by
  unfold integerText
  split
  · exact List.cons_ne_nil _ _
  · exact Nat.toDigits_ne_nil

namespace Finite64

theorem exactText_ne_nil (x : Finite64) : x.exactText ≠ [] := by
  unfold exactText signed Decimal.positionalWithPoint Decimal.scientific
  split
  · exact List.cons_ne_nil _ _
  · dsimp only
    split
    · split
      · next h =>
        unfold Decimal.positional
        split
        · next hexp => rw [hexp] at h; exact absurd h (by simp)
        · dsimp only
          split <;> simp
      · simp
    · simp

end Finite64

/-- A number has a written form. -/
theorem Number.exactText_ne_empty (n : Number) : n.exactText ≠ "" := by
  cases n with
  | integer n => simpa [exactText] using integerText_ne_nil n.val
  | float x => simpa [exactText] using x.exactText_ne_nil

/-- An id a document asks for is not empty. -/
theorem Document.explicitId?_ne_empty {doc : Document} {id : String}
    (h : doc.explicitId? = some id) : id ≠ "" := by
  unfold explicitId? at h
  split at h
  · split at h
    · cases h
    · next hne => exact Option.some.inj h ▸ hne
  · exact Option.some.inj h ▸ Number.exactText_ne_empty _
  · cases h

namespace Identifier

theorem drawFrom?_eq_some {taken : String → Bool} {begun : List Char} {words rest : List UInt32}
    {id : String} (h : drawFrom? taken begun words = some (id, rest)) :
    taken id = false ∧ id ≠ "" := by
  fun_induction drawFrom? taken begun words with
  | case1 begun => cases h
  | case2 begun word words hnone ih => exact ih h
  | case3 begun word words c hsome symbols hshort ih => exact ih h
  | case4 begun word words c hsome symbols hlong htaken ih => exact ih h
  | case5 begun word words c hsome symbols hlong hfree =>
    obtain ⟨rfl, rfl⟩ := Prod.mk.inj (Option.some.inj h)
    exact ⟨by simpa using hfree, by simp [symbols]⟩

/-- **A drawn id is free** and not empty. -/
theorem draw?_eq_some {taken : String → Bool} {words rest : List UInt32} {id : String}
    (h : draw? taken words = some (id, rest)) : taken id = false ∧ id ≠ "" :=
  drawFrom?_eq_some h

end Identifier

/-! ## Collections -/

namespace Database

variable {db db' : Database} {s : StoreId} {name : String} {e : Edit}

/-- The edit an operation on a store makes. -/
def edit? (db : Database) (s : StoreId) : StoreAction → Option Edit
  | .createCollection name _ => (db.collections? s).bind fun collections =>
    if collections.contains name then none else some (.create name)
  | .removeCollection name => (db.collections? s).map fun _ => .dismiss name
  | _ => none

/-- **Making a collection gives a name to new data.** -/
theorem createCollection_ok {bind : String} {v : View}
    (h : db.createCollection s name = .ok (v, db')) :
    db.edit? s (.createCollection name bind) = some (.create name) ∧
      v = .whole s db.roots.length name ∧ db' = ((Edit.create name).perform s db).touch s := by
  unfold createCollection at h
  split at h
  · cases h
  · next collections hc =>
    split at h
    · cases h
    · next hname =>
      obtain ⟨rfl, rfl⟩ := Prod.mk.inj (Except.ok.inj h)
      refine ⟨by rw [edit?, hc, Option.bind_some, if_neg hname], rfl, ?_⟩
      rw [Edit.perform, hc]
      rfl

/-- What is refused makes no edit. -/
theorem createCollection_error {bind : String} {refusal : StoreError}
    (h : db.createCollection s name = .error refusal) :
    db.edit? s (.createCollection name bind) = none := by
  unfold createCollection at h
  split at h
  · next hc => rw [edit?, hc]; rfl
  · next collections hc =>
    split at h
    · next hname => rw [edit?, hc, Option.bind_some, if_pos hname]
    · cases h

/-- **Removing a collection takes its name away.** -/
theorem removeCollection_ok {existed : Bool} (h : db.removeCollection s name = .ok (existed, db')) :
    db.edit? s (.removeCollection name) = some (.dismiss name) ∧
      db' = ((Edit.dismiss name).perform s db).touch s := by
  unfold removeCollection at h
  split at h
  · cases h
  · next collections hc =>
    obtain ⟨-, rfl⟩ := Prod.mk.inj (Except.ok.inj h)
    refine ⟨by rw [edit?, hc]; rfl, ?_⟩
    rw [Edit.perform, hc]
    rfl

/-- What is refused makes no edit. -/
theorem removeCollection_error {refusal : StoreError}
    (h : db.removeCollection s name = .error refusal) :
    db.edit? s (.removeCollection name) = none := by
  unfold removeCollection at h
  split at h
  · next hc => rw [edit?, hc]; rfl
  · cases h

/-- The edits of stores are of their names. -/
theorem exists_name_of_edit? {a : StoreAction} (he : db.edit? s a = some e) :
    ∃ name, e = .create name ∨ e = .dismiss name := by
  cases a with
  | createCollection name bind =>
    obtain ⟨collections, -, he⟩ := Option.bind_eq_some_iff.1 he
    exact ⟨name, .inl (Option.some.inj (Option.ite_none_left_eq_some.1 he).2).symm⟩
  | removeCollection name =>
    obtain ⟨collections, -, rfl⟩ := Option.map_eq_some_iff.1 he
    exact ⟨name, .inr rfl⟩
  | _ => cases he

/-- The edits of stores are allowed. -/
theorem allowed_edit? {a : StoreAction} (he : db.edit? s a = some e) : e.Allowed db s := by
  cases a with
  | createCollection name bind =>
    obtain ⟨collections, hc, he⟩ := Option.bind_eq_some_iff.1 he
    obtain ⟨hname, heq⟩ := Option.ite_none_left_eq_some.1 he
    cases heq
    exact ⟨collections, hc, fun hmem => hname (Bindings.contains_iff.2 hmem)⟩
  | removeCollection name =>
    obtain ⟨collections, hc, rfl⟩ := Option.map_eq_some_iff.1 he
    exact Option.isSome_iff_exists.2 ⟨collections, hc⟩
  | _ => cases he

end Database

/-! ## Views -/

namespace View

variable {v : View} {db db' : Database} {s : StoreId} {r : RootId} {e : Edit}

/-- The scope of a view, if it has one, is in order. -/
def Fits (v : View) (db : Database) : Prop :=
  ∀ scope, v.scope = some scope → db.Scoped v.root scope

/-- A view as operations make it: of an initialized store and of data that
is there, with a scope in order. -/
structure Sound (v : View) (db : Database) : Prop where
  store : (db.collections? v.store).isSome
  root : v.root < db.roots.length
  fits : v.Fits db

theorem Fits.evolves (h : v.Fits db) (hd : Bindings.Distinct (db.entries v.root))
    (hev : db.Evolves db') : v.Fits db' :=
  fun scope hscope => (h scope hscope).evolves hd hev

theorem Sound.evolves (h : v.Sound db) (hdb : db.Sound) (hev : db.Evolves db') : v.Sound db' where
  store := hev.initialized v.store h.store
  root := Nat.lt_of_lt_of_le h.root hev.roots
  fits := h.fits.evolves (hdb.distinct v.root) hev

/-- **What a view sees** is the part of the collection that its scope
admits, in the collection's order. -/
theorem visible_eq_filter (h : v.Fits db) (hd : Bindings.Distinct (db.entries v.root)) :
    v.visible db = (db.entries v.root).filter fun e => v.admits e.1 e.2 := by
  unfold visible admits
  cases hscope : v.scope with
  | none => exact (List.filter_eq_self.2 fun _ _ => rfl).symm
  | some scope => exact (h scope hscope).live_eq_filter hd

theorem mem_visible_iff (h : v.Fits db) (hd : Bindings.Distinct (db.entries v.root)) {id : String}
    {entry : Entry} :
    (id, entry) ∈ v.visible db ↔ (id, entry) ∈ db.entries v.root ∧ v.admits id entry = true := by
  rw [visible_eq_filter h hd, List.mem_filter]

/-- **A filter makes a scope in order.** -/
theorem fits_filter (h : v.Fits db) (hdb : db.Sound) (f : Filter) : (v.filter db f).Fits db := by
  intro scope hscope
  obtain rfl := Option.some.inj hscope
  have hsub : List.Sublist ((v.visible db).filter fun e => f.test e.1 e.2.fields)
      (db.entries v.root) := by
    rw [visible_eq_filter h (hdb.distinct v.root)]
    exact List.filter_sublist.trans List.filter_sublist
  refine ⟨?_, fun p hp => ?_, List.filter_sublist.trans (Entries.stamps_sublist hsub)⟩
  · have hd := (hdb.distinct v.root).sublist hsub
    unfold Bindings.Distinct at hd ⊢
    rwa [← Entries.keys_stamps] at hd
  · obtain ⟨⟨id, e⟩, he, rfl⟩ := List.mem_map.1 hp
    exact hdb.lt_generation v.root id e (hsub.subset he)

theorem sound_filter (h : v.Sound db) (hdb : db.Sound) (f : Filter) : (v.filter db f).Sound db :=
  ⟨h.store, h.root, fits_filter h.fits hdb f⟩

/-- **What a filtered view admits**: what the view admitted and the filter
passed, for as long as it has its generation. -/
theorem admits_filter_iff (h : v.Fits db) (hdb : db.Sound) {f : Filter} {id : String} {e : Entry} :
    (v.filter db f).admits id e = true ↔
      ∃ e', (id, e') ∈ db.entries v.root ∧ v.admits id e' = true ∧
        e'.generation = e.generation ∧ f.test id e'.fields = true := by
  have hd := (fits_filter h hdb f _ rfl).distinct
  rw [visible_eq_filter h (hdb.distinct v.root)] at hd
  unfold admits filter
  dsimp only
  rw [visible_eq_filter h (hdb.distinct v.root), beq_iff_eq, Bindings.get?_eq_some_iff hd]
  simp only [List.mem_map, List.mem_filter, Prod.exists, Prod.mk.injEq]
  constructor
  · rintro ⟨id, e', ⟨⟨hmem, had⟩, htest⟩, rfl, hgen⟩
    exact ⟨e', hmem, had, hgen, htest⟩
  · rintro ⟨e', hmem, had, hgen, htest⟩
    exact ⟨id, e', ⟨⟨hmem, had⟩, htest⟩, rfl, hgen⟩

/-- **What a filter selects** are the documents of the view that pass it. -/
theorem visible_filter (h : v.Fits db) (hdb : db.Sound) (f : Filter) :
    (v.filter db f).visible db = (v.visible db).filter fun e => f.test e.1 e.2.fields := by
  have hd := hdb.distinct v.root
  have hroot : (v.filter db f).root = v.root := rfl
  rw [visible_eq_filter (fits_filter h hdb f) hd, visible_eq_filter h hd, List.filter_filter, hroot]
  refine List.filter_congr fun ⟨id, e⟩ he => ?_
  rw [Bool.eq_iff_iff, Bool.and_eq_true, admits_filter_iff h hdb]
  constructor
  · rintro ⟨e', he', hadmits, -, htest⟩
    obtain rfl := hd.eq_of_mem he he'
    exact ⟨htest, hadmits⟩
  · rintro ⟨htest, hadmits⟩
    exact ⟨e, he, hadmits, rfl, htest⟩

/-! ### Mutations of views -/

/-- The edit an operation makes. -/
def edit? (v : View) (db : Database) : ViewAction → Option Edit
  | .add (.object members) =>
    let fields := Bindings.erase members idField
    let taken (id : String) : Bool := (db.entries v.root).contains id
    match Document.explicitId? members with
    | some id => if taken id then none else some (.put v.root id fields db.words)
    | none => (Identifier.draw? taken db.words).map fun (id, words) => .put v.root id fields words
  | .update p => some (.patch v.root v.admits p)
  | .updateValue value => (Patch.ofValue? value).toOption.map (.patch v.root v.admits)
  | .remove => some (.discard v.root v.admits)
  | _ => none

/-- What the edit of an addition is like. -/
theorem edit?_add {document : Value} (h : v.edit? db (.add document) = some e) :
    ∃ id fields words, e = .put v.root id fields words ∧ id ≠ "" ∧
      id ∉ (db.entries v.root).keys ∧ idField ∉ Bindings.keys fields := by
  have hfree {id : String} (hid : ((db.entries v.root).contains id) = false) :
      id ∉ (db.entries v.root).keys := by
    rw [← Bindings.contains_iff]
    simpa using hid
  cases document with
  | object members =>
    have hfields := Entries.idField_notMem_erase members
    simp only [edit?] at h
    split at h
    · next id hexplicit =>
      split at h
      · cases h
      · next hid =>
        exact ⟨id, _, _, (Option.some.inj h).symm, Document.explicitId?_ne_empty hexplicit,
          hfree (by simpa using hid), hfields⟩
    · obtain ⟨⟨id, words⟩, hdraw, rfl⟩ := Option.map_eq_some_iff.1 h
      obtain ⟨hid, hne⟩ := Identifier.draw?_eq_some hdraw
      exact ⟨id, _, words, rfl, hne, hfree hid, hfields⟩
  | _ => cases h

/-- **An addition puts a document.** -/
theorem add_eq_ok_iff {document : Value} {id : String} :
    v.add db document = .ok (id, db') ↔
      ∃ fields words, v.edit? db (.add document) = some (.put v.root id fields words) ∧
        db' = ((Edit.put v.root id fields words).perform v.store db).touch v.store := by
  have hput {id' : String} {fields : Document} {words : List UInt32} :
      (Except.ok (id', ((Edit.put v.root id' fields words).perform v.store db).touch v.store) :
          Except StoreError (String × Database)) = .ok (id, db') ↔
        ∃ fields' words', some (Edit.put v.root id' fields words) =
            some (.put v.root id fields' words') ∧
          db' = ((Edit.put v.root id fields' words').perform v.store db).touch v.store := by
    constructor
    · intro h
      obtain ⟨rfl, rfl⟩ := Prod.mk.inj (Except.ok.inj h)
      exact ⟨fields, words, rfl, rfl⟩
    · rintro ⟨_, _, h, rfl⟩
      cases h
      rfl
  cases document with
  | object members =>
    cases hexplicit : Document.explicitId? members with
    | some id' =>
      simp only [add, edit?, hexplicit]
      split
      · simp
      · exact hput
    | none =>
      cases hdraw : Identifier.draw? (fun id => (db.entries v.root).contains id) db.words with
      | some drawn =>
        simp only [add, edit?, hexplicit, hdraw]
        exact hput
      | none => simp [add, edit?, hexplicit, hdraw]
  | _ => simp [add, edit?]

/-- **An update patches what the view admits.** -/
theorem update_eq (h : v.Fits db) (hd : Bindings.Distinct (db.entries v.root)) (p : Patch) :
    v.update db p = ((v.visible db).length,
      ((Edit.patch v.root v.admits p).perform v.store db).touch v.store) := by
  unfold update visible admits
  cases hscope : v.scope with
  | none => rfl
  | some scope =>
    dsimp only
    rw [Database.patchLive_eq (h scope hscope).distinct hd]
    rfl

/-- **A removal discards what the view admits.** -/
theorem remove_eq (h : v.Fits db) (hd : Bindings.Distinct (db.entries v.root)) :
    v.remove db = ((v.visible db).length,
      ((Edit.discard v.root v.admits).perform v.store db).touch v.store) := by
  -- what is counted is how many entries went
  have hlength := List.length_eq_length_filter_add (l := db.entries v.root)
    fun e => v.admits e.1 e.2
  rw [visible_eq_filter h hd]
  refine Prod.ext ?_ rfl
  simp only [remove]
  omega

/-- What an update leaves of the collection. -/
theorem entries_update (h : v.Fits db) (hd : Bindings.Distinct (db.entries v.root)) (p : Patch) :
    (v.update db p).2.entries v.root = (db.entries v.root).map fun e =>
      (e.1, if v.admits e.1 e.2 then e.2.patch p else e.2) := by
  rw [update_eq h hd, Database.sameData_touch.entries, Database.entries_perform_patch, if_pos rfl]

/-- What a removal leaves of the collection. -/
theorem entries_remove (h : v.Fits db) (hd : Bindings.Distinct (db.entries v.root)) :
    (v.remove db).2.entries v.root = (db.entries v.root).filter fun e => !v.admits e.1 e.2 := by
  rw [remove_eq h hd, Database.sameData_touch.entries, Database.entries_perform_discard, if_pos rfl]

/-- The edits of views are allowed. -/
theorem allowed_edit? (h : v.Sound db) {a : ViewAction} (he : v.edit? db a = some e) :
    e.Allowed db v.store := by
  cases a with
  | add document =>
    obtain ⟨id, fields, words, rfl, hne, hid, hfields⟩ := edit?_add he
    exact ⟨h.store, h.root, hne, hid, hfields⟩
  | update p => cases he; exact h.store
  | updateValue value =>
    obtain ⟨p, -, rfl⟩ := Option.map_eq_some_iff.1 he
    exact h.store
  | remove => cases he; exact h.store
  | _ => cases he

end View

/-! ## Handles -/

namespace Handle

variable {h : Handle} {db db' : Database} {e : Edit}

/-- A handle as operations make it. -/
structure Sound (h : Handle) (db : Database) : Prop where
  store : (db.collections? h.store).isSome
  root : h.root < db.roots.length

theorem Sound.evolves (hs : h.Sound db) (hev : db.Evolves db') : h.Sound db' where
  store := hev.initialized h.store hs.store
  root := Nat.lt_of_lt_of_le hs.root hev.roots

/-- Whether an entry is the one the handle stands for. -/
def selects (h : Handle) (id : String) (e : Entry) : Bool := id == h.id && h.pin.admits e

/-- The edit an operation makes. -/
def edit? (h : Handle) (db : Database) : HandleAction → Option Edit
  | .update p => if h.isPresent db then some (.patch h.root h.selects p) else none
  | .updateValue value =>
    if h.isPresent db then (Patch.ofValue? value).toOption.map (.patch h.root h.selects) else none
  | .remove => if h.isPresent db then some (.discard h.root h.selects) else none
  | _ => none

/-- A handle's document is present just if an entry is selected. -/
theorem isPresent_iff (hd : Bindings.Distinct (db.entries h.root)) :
    h.isPresent db = true ↔ ∃ e, (h.id, e) ∈ db.entries h.root ∧ h.pin.admits e = true := by
  simp only [isPresent, entry?, Option.isSome_iff_exists, Option.filter_eq_some_iff,
    Bindings.get?_eq_some_iff hd]

/-- Of all the entries the one under the id is selected, since it is the one that is
found. -/
theorem selects_eq (hd : Bindings.Distinct (db.entries h.root)) {e e' : Entry} {id' : String}
    (hmem : (h.id, e) ∈ db.entries h.root) (hpin : h.pin.admits e = true)
    (he' : (id', e') ∈ db.entries h.root) : h.selects id' e' = (id' == h.id) := by
  by_cases hid : id' = h.id
  · subst hid
    have heq : e' = e := hd.eq_of_mem he' hmem
    simp [selects, heq, hpin]
  · simp [selects, hid]

/-- **An update patches the entry the handle stands for.** -/
theorem update_eq (hd : Bindings.Distinct (db.entries h.root)) (hp : h.isPresent db = true)
    (p : Patch) : h.update db p =
      .ok (((Edit.patch h.root h.selects p).perform h.store db).touch h.store) := by
  obtain ⟨e, he⟩ := Option.isSome_iff_exists.1 hp
  obtain ⟨hget, hpin⟩ := Option.filter_eq_some_iff.1 he
  have hmem := Bindings.mem_of_get? hget
  have hentries : (db.entries h.root).insert h.id (e.patch p) = (db.entries h.root).map fun e' =>
      (e'.1, if h.selects e'.1 e'.2 then e'.2.patch p else e'.2) := by
    rw [Bindings.insert_of_mem hd (Bindings.mem_keys_iff.2 ⟨e, hmem⟩)]
    refine List.map_congr_left fun e' he' => ?_
    rw [selects_eq hd hmem hpin he']
    by_cases hid : e'.1 = h.id
    · have heq : e'.2 = e := hd.eq_of_mem (hid ▸ he') hmem
      simp [hid, heq]
    · simp [hid]
  unfold update
  rw [he]
  dsimp only
  rw [hentries]
  rfl

/-- An update that is not refused has patched that entry. -/
theorem update_ok (hd : Bindings.Distinct (db.entries h.root)) {p : Patch}
    (hu : h.update db p = .ok db') : h.isPresent db = true ∧
      db' = ((Edit.patch h.root h.selects p).perform h.store db).touch h.store := by
  have hp : h.isPresent db = true := by
    unfold update at hu
    split at hu
    · next e he => rw [isPresent, he]; rfl
    · cases hu
  rw [update_eq hd hp] at hu
  exact ⟨hp, (Except.ok.inj hu).symm⟩

/-- **A removal discards the entry the handle stands for.** -/
theorem remove_eq (hd : Bindings.Distinct (db.entries h.root)) (hp : h.isPresent db = true) :
    h.remove db =
      (true, ((Edit.discard h.root h.selects).perform h.store db).touch h.store) := by
  obtain ⟨e, hmem, hpin⟩ := (isPresent_iff hd).1 hp
  have hentries : (db.entries h.root).erase h.id =
      (db.entries h.root).filter fun e' => !h.selects e'.1 e'.2 :=
    List.filter_congr fun e' he' => by rw [selects_eq hd hmem hpin he', bne]
  unfold remove
  rw [if_pos hp, hentries]
  rfl

/-- The edits of handles are allowed. -/
theorem allowed_edit? (hs : h.Sound db) {a : HandleAction} (he : h.edit? db a = some e) :
    e.Allowed db h.store := by
  cases a with
  | update p =>
    obtain ⟨-, heq⟩ := Option.ite_none_right_eq_some.1 he
    cases heq
    exact hs.store
  | updateValue value =>
    obtain ⟨-, hvalue⟩ := Option.ite_none_right_eq_some.1 he
    obtain ⟨p, -, rfl⟩ := Option.map_eq_some_iff.1 hvalue
    exact hs.store
  | remove =>
    obtain ⟨-, heq⟩ := Option.ite_none_right_eq_some.1 he
    cases heq
    exact hs.store
  | _ => cases he

end Handle

end DocumentStore
