import DocumentStore.Proofs.Hosting
import DocumentStore.Proofs.Run

/-!
# Restart — what a store has after it was opened again

What a store persists is its contents: the names of its collections, the ids
in each and the documents under them, all in order (`Contents`). Writing
them is one walk and loading them another, which passes over whatever is no
document and renumbers the rest (`Contents.ofMembers`, `contents?_init`). Of
the contents of a sound database there is nothing to pass over, so that a
store opened on a host that holds them has them again, without the field of
the id's name (`openStore_of_load`), and what that store persists is loaded
unchanged.
-/

namespace DocumentStore

/-- The documents of a collection by their ids. -/
def Entries.documents (entries : Entries) : Bindings Document :=
  Bindings.mapValues entries Entry.fields

/-- The documents of the collections of a store, by name and id. -/
abbrev Contents := Bindings (Bindings Document)

namespace Contents

variable {c : Contents}

/-- The value contents are persisted as. -/
def toValue (c : Contents) : Value :=
  .object (c.map fun (name, documents) =>
    (name, .object (documents.map fun (id, fields) => (id, .object fields))))

/-- The contents without fields of the id's name. -/
def stripped (c : Contents) : Contents :=
  Bindings.mapValues c fun documents =>
    Bindings.mapValues documents fun fields => Bindings.erase fields idField

/-- Contents as stores have them: names are distinct, and so are the ids of
a collection, none of them empty. -/
structure Valid (c : Contents) : Prop where
  distinct : Bindings.Distinct c
  documents : ∀ name documents, (name, documents) ∈ c → Bindings.Distinct documents
  id_ne : ∀ name documents, (name, documents) ∈ c → ∀ id fields, (id, fields) ∈ documents → id ≠ ""

theorem stripped_stripped (c : Contents) : c.stripped.stripped = c.stripped := by
  have herase (fields : Document) :
      Bindings.erase (Bindings.erase fields idField) idField = Bindings.erase fields idField :=
    Bindings.erase_of_not_mem (Entries.idField_notMem_erase fields)
  simp only [stripped, Bindings.mapValues, List.map_map, Function.comp_def, herase]

theorem Valid.stripped (hc : c.Valid) : c.stripped.Valid := by
  refine ⟨?_, fun name documents hmem => ?_, fun name documents hmem id fields hid => ?_⟩
  · exact hc.distinct.mapValues _
  · obtain ⟨⟨name', documents'⟩, hmem', heq⟩ := List.mem_map.1 hmem
    cases heq
    exact (hc.documents name documents' hmem').mapValues _
  · obtain ⟨⟨name', documents'⟩, hmem', heq⟩ := List.mem_map.1 hmem
    cases heq
    obtain ⟨⟨id', fields'⟩, hid', heq⟩ := List.mem_map.1 hid
    cases heq
    exact hc.id_ne name documents' hmem' id fields' hid'

end Contents

/-! ## What is taken over -/

/-- The documents among the members of what may be a collection: objects, under
an id that is not empty, without the field of the id's name. -/
def Entries.documentsOf (members : Bindings Value) : Bindings Document :=
  members.filterMap fun
    | (id, .object fields) => if id = "" then none else some (id, Bindings.erase fields idField)
    | _ => none

/-- The contents of the members of a snapshot: the collections are objects. -/
def Contents.ofMembers (members : Bindings Value) : Contents :=
  members.filterMap fun
    | (name, .object documents) => some (name, Entries.documentsOf documents)
    | _ => none

/-- The contents of what a host holds. -/
def Contents.ofHeld : Option Value → Contents
  | some (.object members) => ofMembers members
  | _ => []

/-- No key is there twice in a snapshot, nor in one of its collections. -/
structure KeyedOnce (members : Bindings Value) : Prop where
  names : Bindings.Distinct members
  ids : ∀ name documents, (name, .object documents) ∈ members → Bindings.Distinct documents

/-- What a host holds can be taken over: nothing, null or an object. -/
def Loadable (held : Option Value) : Prop :=
  held = none ∨ held = some .null ∨ ∃ members, held = some (.object members)

/-- What was written of documents has all of them. -/
theorem Entries.documentsOf_map {docs : Bindings Document}
    (hid : ∀ id fields, (id, fields) ∈ docs → id ≠ "") :
    documentsOf (docs.map fun d => (d.1, .object d.2)) =
      Bindings.mapValues docs fun fields => Bindings.erase fields idField := by
  rw [documentsOf, List.filterMap_map]
  refine Eq.trans ?_ (congrFun List.filterMap_eq_map docs)
  exact List.filterMap_congr fun d hd => if_neg (hid d.1 d.2 hd)

/-- What was written of contents has all of them. -/
theorem Contents.Valid.ofMembers_map {c : Contents} (hc : c.Valid) :
    ofMembers (c.map fun d => (d.1, .object (d.2.map fun d => (d.1, .object d.2)))) =
      c.stripped := by
  rw [ofMembers, List.filterMap_map]
  refine Eq.trans (List.filterMap_congr fun d hd => ?_) (congrFun List.filterMap_eq_map c)
  exact congrArg (fun docs => some (d.1, docs)) (Entries.documentsOf_map (hc.id_ne d.1 d.2 hd))

theorem KeyedOnce.rest {first : String × Value} {rest : Bindings Value}
    (h : KeyedOnce (first :: rest)) : KeyedOnce rest where
  names := (List.nodup_cons.1 h.names).2
  ids name documents hmem := h.ids name documents (List.mem_cons_of_mem _ hmem)

theorem Contents.Valid.keyedOnce {c : Contents} (hc : c.Valid) :
    KeyedOnce (c.map fun d => (d.1, .object (d.2.map fun d => (d.1, .object d.2)))) where
  names := hc.distinct.map _
  ids name documents hmem := by
    obtain ⟨⟨name', docs⟩, hmem', heq⟩ := List.mem_map.1 hmem
    cases heq
    exact (hc.documents _ docs hmem').map _

theorem Value.WellFormed.keyedOnce {members : Bindings Value}
    (h : (Value.object members).WellFormed) : KeyedOnce members where
  names := h.1
  ids name documents hmem := by
    have hcollection := membersWellFormed_iff.1 h.2 name (.object documents) hmem
    exact hcollection.1

/-- Keys that are new stay so behind the first of them. -/
theorem Bindings.notMem_keys_concat {α β : Type} {m : Bindings α} {rest : Bindings β} {k : String}
    {v : α} {w : β} (hd : Distinct ((k, w) :: rest))
    (hnew : ∀ k' ∈ keys ((k, w) :: rest), k' ∉ keys m) :
    ∀ k' ∈ keys rest, k' ∉ keys (m ++ [(k, v)]) := by
  intro k' hk' hmem
  rw [keys, List.map_append] at hmem
  rcases List.mem_append.1 hmem with hmem | hmem
  · exact hnew k' (List.mem_cons_of_mem _ hk') hmem
  · obtain rfl := List.mem_singleton.1 hmem
    exact (List.nodup_cons.1 hd).1 hk'

namespace Entries

variable {members : Bindings Value}

/-- **The documents of a collection are loaded** behind the entries there are. -/
theorem documents_loadOnto (entries : Entries) (generation : Nat)
    (hd : Bindings.Distinct members)
    (hnew : ∀ id ∈ Bindings.keys members, id ∉ Bindings.keys entries) :
    (loadOnto entries generation members).1.documents =
      entries.documents ++ documentsOf members := by
  fun_induction loadOnto entries generation members with
  | case1 entries generation => exact (List.append_nil _).symm
  | case2 entries generation fields rest ih =>
    exact ih (List.nodup_cons.1 hd).2 fun id hid => hnew id (List.mem_cons_of_mem _ hid)
  | case3 entries generation id fields rest hid ih =>
    -- the id is a new one, so that its entry comes behind those there are
    have hput : Bindings.insert entries id ⟨generation, Bindings.erase fields idField⟩ =
        entries ++ [(id, ⟨generation, Bindings.erase fields idField⟩)] :=
      Bindings.insert_of_not_mem (hnew id List.mem_cons_self)
    have hkept : documentsOf ((id, .object fields) :: rest) =
        (id, Bindings.erase fields idField) :: documentsOf rest :=
      List.filterMap_cons_some (if_neg hid)
    rw [ih (List.nodup_cons.1 hd).2 (hput ▸ Bindings.notMem_keys_concat hd hnew), hput, hkept]
    simp [Entries.documents, Bindings.mapValues]
  | case4 entries generation entry rest hobj ih =>
    have hkept : documentsOf (entry :: rest) = documentsOf rest := by
      obtain ⟨id, v⟩ := entry
      cases v with
      | object fields => exact absurd rfl (hobj id fields)
      | _ => rfl
    rw [hkept]
    exact ih (List.nodup_cons.1 hd).2 fun id hid => hnew id (List.mem_cons_of_mem _ hid)

/-- A collection is loaded with its documents. -/
theorem documents_load (generation : Nat) (hd : Bindings.Distinct members) :
    (load generation members).1.documents = documentsOf members :=
  documents_loadOnto [] generation hd fun _ _ => by simp [Bindings.keys]

end Entries

namespace Database

variable {db db' : Database} {s : StoreId} {c : Contents} {names : Bindings RootId}

/-- The contents of named collections. -/
def contentsOf (db : Database) (names : Bindings RootId) : Contents :=
  Bindings.mapValues names fun r => (db.entries r).documents

/-- The contents of a store, once it is initialized. -/
def contents? (db : Database) (s : StoreId) : Option Contents :=
  (db.collections? s).map db.contentsOf

/-- A snapshot is the value of the contents. -/
theorem snapshot?_eq (db : Database) (s : StoreId) :
    db.snapshot? s = (db.contents? s).map Contents.toValue := by
  simp only [snapshot?, contents?, Option.map_map, Function.comp_def, contentsOf, Contents.toValue,
    Entries.toValue, Entries.documents, Bindings.mapValues, List.map_map]

theorem collectionNames_of_contents? (h : db.contents? s = some c) :
    db.collectionNames s = .ok (Bindings.keys c) := by
  obtain ⟨names, hnames, rfl⟩ := Option.map_eq_some_iff.1 h
  unfold collectionNames contentsOf
  rw [hnames, Bindings.keys_mapValues]

theorem collection?_of_contents? (h : db.contents? s = some c) {name : String} :
    db.collection? s name = .ok none ↔ name ∉ Bindings.keys c := by
  obtain ⟨names, hnames, rfl⟩ := Option.map_eq_some_iff.1 h
  unfold collection? contentsOf
  rw [hnames, Bindings.keys_mapValues, ← Bindings.get?_eq_none_iff]
  simp

/-- **The contents of a sound database are valid.** -/
theorem Sound.valid_contents (hdb : Sound db) (h : db.contents? s = some c) : c.Valid := by
  obtain ⟨names, hnames, rfl⟩ := Option.map_eq_some_iff.1 h
  refine ⟨?_, fun name docs hmem => ?_, fun name docs hmem id fields hid => ?_⟩
  · exact (hdb.named s names hnames).distinct.mapValues _
  · obtain ⟨⟨name', r⟩, -, heq⟩ := List.mem_map.1 hmem
    cases heq
    exact (hdb.distinct r).mapValues _
  · obtain ⟨⟨name', r⟩, -, heq⟩ := List.mem_map.1 hmem
    cases heq
    obtain ⟨⟨id', e⟩, he, heq⟩ := List.mem_map.1 hid
    cases heq
    exact hdb.id_ne r id e he

/-- Where data is added, the collections that are there keep theirs, and a name behind
them has what was added. -/
theorem contentsOf_addRoot (db : Database) {names : Bindings RootId}
    (hroots : ∀ name r, (name, r) ∈ names → r < db.roots.length) (name : String)
    (entries : Entries) :
    (db.addRoot entries).2.contentsOf (names ++ [(name, db.roots.length)]) =
      db.contentsOf names ++ [(name, entries.documents)] := by
  simp only [contentsOf, Bindings.mapValues, List.map_append, List.map_cons, List.map_nil]
  congr 1
  · refine List.map_congr_left fun d hmem => ?_
    rw [entries_addRoot, if_neg (Nat.ne_of_lt (hroots d.1 d.2 hmem))]
  · rw [entries_addRoot, if_pos rfl]

/-- All these names are of data that is there then. -/
theorem lt_length_addRoot (db : Database) {names : Bindings RootId}
    (hroots : ∀ name r, (name, r) ∈ names → r < db.roots.length) (name : String)
    (entries : Entries) (name' : String) (r : RootId)
    (hmem : (name', r) ∈ names ++ [(name, db.roots.length)]) :
    r < (db.addRoot entries).2.roots.length := by
  have hlength : (db.addRoot entries).2.roots.length = db.roots.length + 1 := by simp [addRoot]
  rw [hlength]
  rcases List.mem_append.1 hmem with hmem | hmem
  · exact Nat.lt_succ_of_lt (hroots name' r hmem)
  · cases List.mem_singleton.1 hmem
    exact Nat.lt_succ_self _

/-- **The collections of a snapshot are loaded** behind those there are. -/
theorem contentsOf_loadCollections (names : Bindings RootId) (db : Database)
    {members : Bindings Value} (hkeys : KeyedOnce members)
    (hnew : ∀ name ∈ Bindings.keys members, name ∉ Bindings.keys names)
    (hroots : ∀ name r, (name, r) ∈ names → r < db.roots.length) :
    let loaded := loadCollections names db members
    loaded.2.contentsOf loaded.1 = db.contentsOf names ++ Contents.ofMembers members := by
  intro loaded
  fun_induction loadCollections names db members with
  | case1 names db => exact (List.append_nil _).symm
  | case2 names db name docs rest entries generation hload root db' hadd ih =>
    obtain ⟨rfl, rfl⟩ := Prod.mk.inj hadd
    have hdocuments : entries.documents = Entries.documentsOf docs := by
      have hall := Entries.documents_load db.generation (hkeys.ids name docs List.mem_cons_self)
      rwa [hload] at hall
    have hput : Bindings.insert names name db.roots.length = names ++ [(name, db.roots.length)] :=
      Bindings.insert_of_not_mem (hnew name List.mem_cons_self)
    have hcontents : ({ db with generation }.addRoot entries).2.contentsOf
        (names ++ [(name, db.roots.length)]) =
          db.contentsOf names ++ [(name, Entries.documentsOf docs)] :=
      hdocuments ▸ contentsOf_addRoot { db with generation } hroots name entries
    have hothers : ∀ name' ∈ Bindings.keys rest,
        name' ∉ Bindings.keys (names ++ [(name, db.roots.length)]) :=
      Bindings.notMem_keys_concat hkeys.names hnew
    have hlt : ∀ name' r, (name', r) ∈ names ++ [(name, db.roots.length)] →
        r < ({ db with generation }.addRoot entries).2.roots.length :=
      lt_length_addRoot { db with generation } hroots name entries
    have hloaded := ih hkeys.rest (hput ▸ hothers) (hput ▸ hlt)
    have hkept : Contents.ofMembers ((name, .object docs) :: rest) =
        (name, Entries.documentsOf docs) :: Contents.ofMembers rest := rfl
    rw [hkept, List.append_cons, ← hcontents, ← hput]
    exact hloaded
  | case3 names db entry rest hobj ih =>
    have hkept : Contents.ofMembers (entry :: rest) = Contents.ofMembers rest := by
      obtain ⟨name, v⟩ := entry
      cases v with
      | object docs => exact absurd rfl (hobj name docs)
      | _ => rfl
    rw [hkept]
    exact ih hkeys.rest (fun name hname => hnew name (List.mem_cons_of_mem _ hname)) hroots

/-- **What can be taken over is loaded**, -/
theorem exists_loadSnapshot {held : Option Value} (hheld : Loadable held)
    (hkeys : ∀ members, held = some (.object members) → KeyedOnce members) (db : Database) :
    ∃ names db₁, db.loadSnapshot held = .ok (names, db₁) ∧
      db₁.contentsOf names = .ofHeld held := by
  rcases hheld with rfl | rfl | ⟨members, rfl⟩
  · exact ⟨[], db, rfl, rfl⟩
  · exact ⟨[], db, rfl, rfl⟩
  · exact ⟨_, _, rfl, contentsOf_loadCollections [] db (hkeys members rfl)
      (fun _ _ => by simp [Bindings.keys]) fun _ _ hmem => by simp at hmem⟩

/-- and a store that is not initialized has it then. -/
theorem contents?_init {store : Store} {held : Option Value} (hs : db.stores[s]? = some store)
    (hnew : store.collections = none) (hload : db.host.load? = .ok held) (hheld : Loadable held)
    (hkeys : ∀ members, held = some (.object members) → KeyedOnce members) :
    ∃ db', db.init s = .ok db' ∧ db'.contents? s = some (.ofHeld held) := by
  obtain ⟨names, db₁, hsnapshot, hcontents⟩ := exists_loadSnapshot hheld hkeys db
  have hnone : db.collections? s = none := by rw [collections?, hs, Option.bind_some, hnew]
  refine ⟨_, init_of_load hnone hload hsnapshot, ?_⟩
  rw [contents?, collections_modifyStore, (loaded_loadSnapshot hsnapshot).1.stores, hs]
  simp only [Option.bind_some, if_true, Option.map_some]
  exact congrArg some hcontents

/-- **A store opened on a host that holds contents has them**, without the
fields of the id's name. -/
theorem openStore_of_load (config : Config) (hc : c.Valid)
    (hl : db.host.load? = .ok (some c.toValue)) :
    ∃ s db', db.openStore config = .ok (s, db') ∧ db'.contents? s = some c.stripped := by
  have hs : (db.addStore config).2.stores[db.stores.length]? = some (.new config) := by
    rw [getElem?_addStore, if_pos rfl]
  obtain ⟨db', hinit, hcontents⟩ := contents?_init hs rfl hl (.inr (.inr ⟨_, rfl⟩))
    (by rintro members ⟨⟩; exact hc.keyedOnce)
  refine ⟨_, db', openStore_eq_ok_iff.2 ⟨rfl, hinit⟩, ?_⟩
  rw [hcontents, ← hc.ofMembers_map]
  rfl

end Database

namespace Session

open Database

/-- **Restart fidelity.** A store opened on a host that accepted the
snapshot of some store of a run, and preserves it, has the same collections
in the same order, in each the same ids in the same order and under each the
same document, without the field of the id's name; it has no others; and its
own snapshot is loaded unchanged. -/
theorem restart_restores (host : Host) (config : Config) (words : List UInt32)
    (actions : List Action) (t : Nat) (s : StoreId) (v : Value) (config' : Config) (db₀ : Database)
    (hv : ((start host config words).moment actions t).database.snapshot? s = some v)
    (hhost : db₀.host.Accepted v) :
    let db := ((start host config words).moment actions t).database
    ∃ s' db', db₀.openStore config' = .ok (s', db') ∧
      db'.collectionNames s' = db.collectionNames s ∧
      db'.contents? s' = (db.contents? s).map Contents.stripped ∧
      (∀ name, db.collection? s name = .ok none → db'.collection? s' name = .ok none) ∧
      ∃ v', db'.snapshot? s' = some v' ∧ ∀ config'' (db₁ : Database), db₁.host.Accepted v' →
        ∃ s'' db'', db₁.openStore config'' = .ok (s'', db'') ∧
          db''.contents? s'' = db'.contents? s' ∧ db''.snapshot? s'' = some v' := by
  intro db
  have hdb : db.Sound := ((sound_start host config words).moment actions t).database
  rw [snapshot?_eq] at hv
  obtain ⟨c, hc, rfl⟩ := Option.map_eq_some_iff.1 hv
  have hvalid : c.Valid := hdb.valid_contents hc
  obtain ⟨s', db', hopen, hcontents⟩ := openStore_of_load config' hvalid hhost.load?_eq
  have hkeys : Bindings.keys c.stripped = Bindings.keys c := Bindings.keys_mapValues _ _
  have hcdb : db.contents? s = some c := hc
  refine ⟨s', db', hopen, ?_, ?_, fun name hname => ?_, c.stripped.toValue, ?_,
    fun config'' db₁ hhost₁ => ?_⟩
  · rw [collectionNames_of_contents? hcontents, collectionNames_of_contents? hcdb, hkeys]
  · rw [hcontents, hcdb]
    rfl
  · rw [collection?_of_contents? hcontents, hkeys]
    exact (collection?_of_contents? hcdb).1 hname
  · rw [snapshot?_eq, hcontents]
    rfl
  · obtain ⟨s'', db'', hopen', hcontents'⟩ :=
      openStore_of_load config'' hvalid.stripped hhost₁.load?_eq
    rw [Contents.stripped_stripped] at hcontents'
    refine ⟨s'', db'', hopen', by rw [hcontents', hcontents], ?_⟩
    rw [snapshot?_eq, hcontents']
    rfl

/-- A run that leaves a field of the id's name in a document, and a document
in a collection whose name was taken away. -/
def restarting : List Action :=
  [.onStore .init, .onStore (.createCollection "t" "c"), .onStore (.createCollection "u" "d"),
    .onView "c" (.add (.object [("_id", .string "a"), ("x", .bool true)])),
    .onView "c" (.updateValue (.object [("_id", .string "b")])),
    .onStore (.removeCollection "u"), .onView "d" (.add (.object [("_id", .string "z")]))]

/-- Opened again on a host in memory that accepted the snapshot, the store
has neither. -/
theorem restart_restores_restarting :
    let db := ((start (.memory (.new none)) .manual []).moment restarting 7).database
    let v : Value := .object [("t", .object [("a",
      .object [("x", .bool true), ("_id", .string "b")])])]
    let accepting := (Host.memory (.new none)).persist v
    db.snapshot? 0 = some v ∧ accepting.1.Accepted v ∧
      ∃ s' db', (Database.new accepting.1 []).openStore .immediate = .ok (s', db') ∧
        db'.contents? s' = some [("t", [("a", [("x", .bool true)])])] := by
  intro db v accepting
  have haccepted : accepting.1.Accepted v := ⟨.memory (.new none), trivial, rfl⟩
  obtain ⟨s', db', hopen, -, hcontents, -⟩ :=
    restart_restores (.memory (.new none)) .manual [] restarting 7 0 v .immediate
      (Database.new accepting.1 []) rfl haccepted
  exact ⟨rfl, haccepted, s', db', hopen, hcontents⟩

end Session

end DocumentStore
