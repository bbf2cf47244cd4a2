import DocumentStore.Proofs.Release
import DocumentStore.Proofs.Restart

/-!
# Normalization — what is left of whatever a host holds

A store that is not initialized takes over nothing, null or an object, and refuses the
rest (`Loadable`). Of an object it keeps the collections and documents that are some
(`Contents.ofHeld`), and its snapshot shows these. They are valid contents without the
field of the id's name, so that nothing is left to pass over when the snapshot is
loaded again (`KeyedOnce.ofHeld_toValue`). A store that is initialized asks the host
for nothing.
-/

namespace DocumentStore

/-- What is kept of bindings, each under its key, has some of the keys in order. -/
theorem Bindings.keys_filterMap_sublist {α β : Type} {f : String × α → Option (String × β)}
    (hf : ∀ e e', f e = some e' → e'.1 = e.1) (m : Bindings α) :
    List.Sublist (keys (m.filterMap f)) (keys m) := by
  induction m with
  | nil => exact .slnil
  | cons e rest ih =>
    cases hfe : f e with
    | none =>
      rw [List.filterMap_cons_none hfe]
      exact ih.cons e.1
    | some e' =>
      have hkeys : keys (e' :: rest.filterMap f) = e.1 :: keys (rest.filterMap f) :=
        congrArg (· :: _) (hf e e' hfe)
      rw [List.filterMap_cons_some hfe, hkeys]
      exact ih.cons_cons e.1

namespace Entries

variable {members : Bindings Value} {id : String} {fields : Document}

/-- **A document is kept** just if it is an object under an id that is not empty. -/
theorem mem_documentsOf_iff : (id, fields) ∈ documentsOf members ↔
    id ≠ "" ∧ ∃ doc, (id, .object doc) ∈ members ∧ fields = Bindings.erase doc idField := by
  rw [documentsOf, List.mem_filterMap]
  constructor
  · rintro ⟨⟨id', v⟩, hmem, hkept⟩
    cases v with
    | object doc =>
      obtain ⟨hne, heq⟩ := Option.ite_none_left_eq_some.1 hkept
      cases heq
      exact ⟨hne, doc, hmem, rfl⟩
    | _ => cases hkept
  · rintro ⟨hne, doc, hmem, rfl⟩
    exact ⟨(id, .object doc), hmem, if_neg hne⟩

theorem keys_documentsOf_sublist (members : Bindings Value) :
    List.Sublist (Bindings.keys (documentsOf members)) (Bindings.keys members) := by
  refine Bindings.keys_filterMap_sublist (fun e e' h => ?_) members
  obtain ⟨id, v⟩ := e
  cases v with
  | object doc =>
    obtain ⟨-, heq⟩ := Option.ite_none_left_eq_some.1 h
    cases heq
    rfl
  | _ => cases h

end Entries

namespace Contents

variable {members : Bindings Value} {name : String} {documents : Bindings Document}

/-- **A collection is kept** just if it is an object, with its documents. -/
theorem mem_ofMembers_iff : (name, documents) ∈ ofMembers members ↔
    ∃ docs, (name, .object docs) ∈ members ∧ documents = Entries.documentsOf docs := by
  rw [ofMembers, List.mem_filterMap]
  constructor
  · rintro ⟨⟨name', v⟩, hmem, hkept⟩
    cases v with
    | object docs =>
      cases hkept
      exact ⟨docs, hmem, rfl⟩
    | _ => cases hkept
  · rintro ⟨docs, hmem, rfl⟩
    exact ⟨(name, .object docs), hmem, rfl⟩

theorem keys_ofMembers_sublist (members : Bindings Value) :
    List.Sublist (Bindings.keys (ofMembers members)) (Bindings.keys members) := by
  refine Bindings.keys_filterMap_sublist (fun e e' h => ?_) members
  obtain ⟨name, v⟩ := e
  cases v with
  | object docs => cases h; rfl
  | _ => cases h

/-- What is kept of a snapshot has no field of the id's name left. -/
theorem stripped_ofMembers (members : Bindings Value) :
    (ofMembers members).stripped = ofMembers members := by
  refine (List.map_congr_left fun d hd => ?_).trans (List.map_id _)
  obtain ⟨docs, -, hdocuments⟩ := mem_ofMembers_iff.1 hd
  refine Prod.ext rfl ((List.map_congr_left fun e he => ?_).trans (List.map_id _))
  obtain ⟨-, doc, -, hfields⟩ := Entries.mem_documentsOf_iff.1 (hdocuments ▸ he)
  refine Prod.ext rfl (Bindings.erase_of_not_mem ?_)
  rw [hfields]
  exact Entries.idField_notMem_erase doc

end Contents

namespace KeyedOnce

variable {members : Bindings Value}

/-- **What is kept of a snapshot is valid.** -/
theorem valid_ofMembers (h : KeyedOnce members) : (Contents.ofMembers members).Valid where
  distinct := List.Nodup.sublist (Contents.keys_ofMembers_sublist members) h.names
  documents name documents hmem := by
    obtain ⟨docs, hdocs, rfl⟩ := Contents.mem_ofMembers_iff.1 hmem
    exact List.Nodup.sublist (Entries.keys_documentsOf_sublist docs) (h.ids name docs hdocs)
  id_ne name documents hmem id fields hid := by
    obtain ⟨docs, -, rfl⟩ := Contents.mem_ofMembers_iff.1 hmem
    exact (Entries.mem_documentsOf_iff.1 hid).1

/-- The value it is persisted as has each key once too, -/
theorem ofHeld_keyedOnce {held : Option Value}
    (h : ∀ members, held = some (.object members) → KeyedOnce members) (members : Bindings Value)
    (hvalue : (Contents.ofHeld held).toValue = .object members) : KeyedOnce members := by
  have hvalid : (Contents.ofHeld held).Valid := by
    unfold Contents.ofHeld
    split
    · next members' => exact (h members' rfl).valid_ofMembers
    · exact ⟨List.nodup_nil, nofun, nofun⟩
  exact Value.object.inj hvalue ▸ hvalid.keyedOnce

/-- **and is loaded as what it is.** -/
theorem ofHeld_toValue {held : Option Value}
    (h : ∀ members, held = some (.object members) → KeyedOnce members) :
    Contents.ofHeld (some (Contents.ofHeld held).toValue) = Contents.ofHeld held := by
  by_cases hobject : ∃ members, held = some (.object members)
  · obtain ⟨members, rfl⟩ := hobject
    have hvalid := (h members rfl).valid_ofMembers
    exact hvalid.ofMembers_map.trans (Contents.stripped_ofMembers members)
  · have hnothing : Contents.ofHeld held = [] := by
      unfold Contents.ofHeld
      split
      · next members => exact absurd ⟨members, rfl⟩ hobject
      · rfl
    rw [hnothing]
    rfl

end KeyedOnce

/-! ## Initializing -/

namespace Database

variable {db : Database} {s : StoreId} {store : Store} {held : Option Value}

theorem init_of_initialized (h : (db.collections? s).isSome) : db.init s = .ok db := if_pos h

/-- **What cannot be taken over is refused** by its kind. -/
theorem init_of_not_loadable (hs : db.stores[s]? = some store) (hnew : store.collections = none)
    (hload : db.host.load? = .ok held) (hheld : ¬ Loadable held) :
    ∃ v, held = some v ∧ db.init s = .error (.invalidSnapshot v.kindName) := by
  have hnone : db.collections? s = none := by rw [collections?, hs, Option.bind_some, hnew]
  have hinit (v : Value) (h : db.loadSnapshot (some v) = .error (.invalidSnapshot v.kindName))
      (heq : held = some v) : db.init s = .error (.invalidSnapshot v.kindName) := by
    rw [init, hnone, hload, heq]
    simp only [bind, Except.bind, h]
    rfl
  cases held with
  | none => exact absurd (.inl rfl) hheld
  | some v =>
    refine ⟨v, rfl, hinit v ?_ rfl⟩
    cases v with
    | null => exact absurd (.inr (.inl rfl)) hheld
    | object members => exact absurd (.inr (.inr ⟨members, rfl⟩)) hheld
    | _ => rfl

end Database

namespace Session

open Database

variable {x : Session} {s : StoreId} {db : Database}

theorem step_init_of_ok (hstore : x.store = some s) (hinit : x.database.init s = .ok db) :
    x.step (.onStore .init) = ({ x with database := db }.release, .ok .done) := by
  rw [step_onStore hstore]
  simp only [onStore, hinit]
  rfl

/-- **Initializing refused** leaves the session as it was. -/
theorem step_init_of_error {e : StoreError} (hstore : x.store = some s)
    (hinit : x.database.init s = .error e) :
    x.step (.onStore .init) = (x, .error (.store e)) := by
  rw [step_onStore hstore]
  simp only [onStore, hinit]
  rfl

/-- **Initializing again** does so too. -/
theorem step_init_of_initialized (hx : x.Released) (hstore : x.store = some s)
    (h : (x.database.collections? s).isSome) : x.step (.onStore .init) = (x, .ok .done) := by
  rw [step_init_of_ok hstore (init_of_initialized h)]
  exact Prod.ext hx.release_eq rfl

/-- **Initializing** shows what is kept of what the host holds. -/
theorem step_init {store : Store} {held : Option Value} (hstore : x.store = some s)
    (hs : x.database.stores[s]? = some store) (hnew : store.collections = none)
    (hload : x.database.host.load? = .ok held) (hheld : Loadable held)
    (hkeys : ∀ members, held = some (.object members) → KeyedOnce members) :
    (x.step (.onStore .init)).2 = .ok .done ∧
      (x.step (.onStore .init)).1.database.snapshot? s = some (Contents.ofHeld held).toValue := by
  obtain ⟨db, hinit, hcontents⟩ := contents?_init hs hnew hload hheld hkeys
  rw [step_init_of_ok hstore hinit]
  refine ⟨rfl, ?_⟩
  have hsame := (upkept_release { x with database := db }).sameData
  rw [hsame.snapshot s, snapshot?_eq, hcontents]
  rfl

/-- **Loading normalizes whatever the host holds.** At every moment of every run, a
store that is not initialized is initialized just if the host holds nothing, null or
an object; if it holds anything else, this is refused by its kind, and the session is
as it was. The store's snapshot then has, in order, the collections of what was held
that are objects, and in each, in order, the documents: what is an object, under an id
that is not empty, without the field of the id's name. Loaded by any store that is not
initialized, that snapshot gives itself again. And a store that is initialized stays
as it is, whatever a host in the place of its own holds. -/
theorem loading_normalizes (host : Host) (config : Config) (words : List UInt32)
    (actions : List Action) (t : Nat) (s : StoreId) (store : Store) (held : Option Value)
    (hstore : ((start host config words).moment actions t).store = some s)
    (hs : ((start host config words).moment actions t).database.stores[s]? = some store)
    (hnew : store.collections = none)
    (hload : ((start host config words).moment actions t).database.host.load? = .ok held)
    (hwell : ∀ v ∈ held, v.WellFormed) :
    let x := (start host config words).moment actions t
    let init (y : Session) := y.step (.onStore .init)
    let kept := (Contents.ofHeld held).toValue
    ((init x).2 = .ok .done ↔
      held = none ∨ held = some .null ∨ ∃ members, held = some (.object members)) ∧
    ((init x).2 ≠ .ok .done → ∃ v, held = some v ∧
      init x = (x, .error (.store (.invalidSnapshot v.kindName)))) ∧
    ((init x).2 = .ok .done → (init x).1.database.snapshot? s = some kept) ∧
    (∀ y s' store', y.store = some s' → y.database.stores[s']? = some store' →
      store'.collections = none → y.database.host.load? = .ok (some kept) →
        (init y).2 = .ok .done ∧ (init y).1.database.snapshot? s' = some kept) ∧
    ∀ m s' host', ((start host config words).moment actions m).store = some s' →
      (((start host config words).moment actions m).database.collections? s').isSome →
        let y := (start host config words).moment actions m
        let z := { y with database := { y.database with host := host' } }
        init z = (z, .ok .done) := by
  intro x init kept
  have hkeys : ∀ members, held = some (.object members) → KeyedOnce members :=
    fun members hmembers => (hwell _ hmembers).keyedOnce
  have hdone (hheld : Loadable held) := step_init hstore hs hnew hload hheld hkeys
  have hrefused (hheld : ¬ Loadable held) : ∃ v, held = some v ∧
      init x = (x, .error (.store (.invalidSnapshot v.kindName))) := by
    obtain ⟨v, hv, hinit⟩ := init_of_not_loadable hs hnew hload hheld
    exact ⟨v, hv, step_init_of_error hstore hinit⟩
  have hiff : (init x).2 = .ok .done ↔ Loadable held := by
    refine ⟨fun hok => ?_, fun hheld => (hdone hheld).1⟩
    by_contra hheld
    obtain ⟨v, -, herror⟩ := hrefused hheld
    rw [herror] at hok
    cases hok
  refine ⟨hiff, fun hnot => hrefused fun hheld => hnot (hiff.2 hheld),
    fun hok => (hdone (hiff.1 hok)).2, ?_, ?_⟩
  · intro y s' store' hstore' hs' hnew' hload'
    have hagain := step_init hstore' hs' hnew' hload' (.inr (.inr ⟨_, rfl⟩))
      (fun members hmembers =>
        KeyedOnce.ofHeld_keyedOnce hkeys members (Option.some.inj hmembers))
    rwa [KeyedOnce.ofHeld_toValue hkeys] at hagain
  · intro m s' host' hstore' hsome y z
    have hreleased : y.Released :=
      (released_start host config words).moment (sound_start host config words) actions m
    have hz : z.Released := ⟨hreleased.attended, hreleased.exited, hreleased.gone⟩
    exact step_init_of_initialized hz hstore' hsome

/-- A snapshot with what no store keeps, at both levels: of its collections one is a
collection, and in it one document is, under a field that looks like its id. -/
def cluttered : Value :=
  .object [("gone", .null), ("t", .object [("dead", .null), ("", .object []),
    ("a", .object [("x", .null), ("_id", .string "b"), ("y", .bool true)]), ("n", .bool true)]),
    ("list", .array [.object []])]

/-- That document is kept, at the first attempt and again. -/
theorem loading_normalizes_cluttered :
    let x := start (.memory (.new (some cluttered))) .manual []
    let kept : Value := .object [("t", .object [("a", .object [("x", .null), ("y", .bool true)])])]
    let y := start (.memory (.new (some kept))) .manual []
    cluttered.WellFormed ∧ x.database.host.load? = .ok (some cluttered) ∧
      (x.step (.onStore .init)).1.database.snapshot? 0 = some kept ∧
      (y.step (.onStore .init)).1.database.snapshot? 0 = some kept := by
  intro x kept y
  have hdocument :
      (Value.object [("x", .null), ("_id", .string "b"), ("y", .bool true)]).WellFormed :=
    ⟨by decide, trivial, trivial, trivial, trivial⟩
  have hcollection : (Value.object [("dead", .null), ("", .object []),
      ("a", .object [("x", .null), ("_id", .string "b"), ("y", .bool true)]),
      ("n", .bool true)]).WellFormed :=
    ⟨by decide, trivial, ⟨by decide, trivial⟩, hdocument, trivial, trivial⟩
  have hwell : cluttered.WellFormed :=
    ⟨by decide, trivial, hcollection, ⟨⟨by decide, trivial⟩, trivial⟩, trivial⟩
  obtain ⟨hiff, -, hkept, hagain, -⟩ := loading_normalizes (.memory (.new (some cluttered)))
    .manual [] [] 0 0 (.new .manual) (some cluttered) rfl rfl rfl rfl (by rintro v ⟨⟩; exact hwell)
  refine ⟨hwell, rfl, hkept (hiff.2 (.inr (.inr ⟨_, rfl⟩))), ?_⟩
  exact (hagain y 0 (.new .manual) rfl rfl rfl rfl).2

end Session

end DocumentStore
