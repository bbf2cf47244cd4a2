import DocumentStore.Proofs.Edit

/-!
# Loading — what a store takes over from its host

Initializing a store adds data behind the data there is and touches none of
it (`Loaded`). Whatever the host holds, the data it adds is in order: ids
are distinct and not empty, the generations are new ones and each is given
out once, and no document has a field of the id's name (`Entries.Fresh`).
-/

namespace DocumentStore

/-- Entries numbered from `first` up to below `next`, as loading leaves
them. -/
structure Entries.Fresh (first next : Nat) (entries : Entries) : Prop where
  distinct : Bindings.Distinct entries
  id_ne : ∀ id e, (id, e) ∈ entries → id ≠ ""
  first_le : ∀ id e, (id, e) ∈ entries → first ≤ e.generation
  lt_next : ∀ id e, (id, e) ∈ entries → e.generation < next
  no_id : ∀ id e, (id, e) ∈ entries → idField ∉ Bindings.keys e.fields
  apart : ∀ id e id' e', (id, e) ∈ entries → (id', e') ∈ entries →
    e.generation = e'.generation → id = id'

/-- What an operation that may be refused answers, it answers by its steps. -/
theorem bind_eq_ok {ε α β : Type} {answer : Except ε α} {next : α → Except ε β} {b : β} :
    answer >>= next = .ok b ↔ ∃ a, answer = .ok a ∧ next a = .ok b := by
  cases answer with
  | error e => simp [bind, Except.bind]
  | ok a => simp [bind, Except.bind]

namespace Entries

variable {entries : Entries} {first generation next : Nat}

/-- An id can be taken out of the fields of a document. -/
theorem idField_notMem_erase (fields : Document) :
    idField ∉ Bindings.keys (Bindings.erase fields idField) := by
  rw [Bindings.keys_erase]
  simp

theorem Fresh.nil : Fresh first next [] :=
  ⟨List.nodup_nil, fun _ _ h => by simp at h, fun _ _ h => by simp at h,
    fun _ _ h => by simp at h, fun _ _ h => by simp at h, fun _ _ _ _ h => by simp at h⟩

theorem Fresh.mono {first' next' : Nat} (h : Fresh first next entries) (hf : first' ≤ first)
    (hn : next ≤ next') : Fresh first' next' entries where
  distinct := h.distinct
  id_ne := h.id_ne
  first_le id e he := Nat.le_trans hf (h.first_le id e he)
  lt_next id e he := Nat.lt_of_lt_of_le (h.lt_next id e he) hn
  no_id := h.no_id
  apart := h.apart

/-- One more document is in order too. -/
theorem Fresh.insert (h : Fresh first generation entries) (hf : first ≤ generation) {id : String}
    (hid : id ≠ "") (fields : Document) :
    Fresh first (generation + 1)
      (Bindings.insert entries id ⟨generation, Bindings.erase fields idField⟩) where
  distinct := h.distinct.insert id _
  id_ne id' e he := by
    rcases Bindings.mem_insert he with he | ⟨rfl, rfl⟩
    · exact h.id_ne id' e he
    · exact hid
  first_le id' e he := by
    rcases Bindings.mem_insert he with he | ⟨rfl, rfl⟩
    · exact h.first_le id' e he
    · exact hf
  lt_next id' e he := by
    rcases Bindings.mem_insert he with he | ⟨rfl, rfl⟩
    · exact Nat.lt_succ_of_lt (h.lt_next id' e he)
    · exact Nat.lt_succ_self generation
  no_id id' e he := by
    rcases Bindings.mem_insert he with he | ⟨rfl, rfl⟩
    · exact h.no_id id' e he
    · exact idField_notMem_erase fields
  apart id₁ e₁ id₂ e₂ h₁ h₂ heq := by
    -- the new document has the first generation that none before it has
    rcases Bindings.mem_insert h₁ with hold₁ | ⟨rfl, rfl⟩ <;>
      rcases Bindings.mem_insert h₂ with hold₂ | ⟨rfl, rfl⟩
    · exact h.apart id₁ e₁ id₂ e₂ hold₁ hold₂ heq
    · exact absurd heq (Nat.ne_of_lt (h.lt_next id₁ e₁ hold₁))
    · exact absurd heq.symm (Nat.ne_of_lt (h.lt_next id₂ e₂ hold₂))
    · rfl

/-- What is loaded onto entries in order is in order. -/
theorem fresh_loadOnto (h : Fresh first generation entries) (hf : first ≤ generation)
    (members : List (String × Value)) :
    generation ≤ (loadOnto entries generation members).2 ∧
      Fresh first (loadOnto entries generation members).2
        (loadOnto entries generation members).1 := by
  fun_induction loadOnto entries generation members with
  | case1 entries generation => exact ⟨Nat.le_refl _, h⟩
  | case2 entries generation fields rest ih => exact ih h hf
  | case3 entries generation id fields rest hid ih =>
    obtain ⟨hle, hfresh⟩ := ih (h.insert hf hid fields) (Nat.le_succ_of_le hf)
    exact ⟨Nat.le_trans (Nat.le_succ _) hle, hfresh⟩
  | case4 entries generation entry rest hobj ih => exact ih h hf

/-- **A loaded collection is in order.** -/
theorem fresh_load (generation : Nat) (members : List (String × Value)) :
    generation ≤ (load generation members).2 ∧
      Fresh generation (load generation members).2 (load generation members).1 :=
  fresh_loadOnto Fresh.nil (Nat.le_refl _) members

end Entries

namespace Database

variable {db db' : Database} {s t : StoreId} {r : RootId}

/-- Names as a store has them: distinct, and each of data that is there and
has no other name. -/
structure Named (db : Database) (collections : Bindings RootId) : Prop where
  distinct : Bindings.Distinct collections
  root_lt : ∀ name r, (name, r) ∈ collections → r < db.roots.length
  apart : ∀ name name' r, (name, r) ∈ collections → (name', r) ∈ collections → name = name'

theorem Named.nil (db : Database) : Named db [] :=
  ⟨List.nodup_nil, fun _ _ h => by simp at h, fun _ _ _ h => by simp at h⟩

theorem Named.mono {collections : Bindings RootId} (h : Named db collections)
    (hr : db.roots.length ≤ db'.roots.length) : Named db' collections where
  distinct := h.distinct
  root_lt name r hmem := Nat.lt_of_lt_of_le (h.root_lt name r hmem) hr
  apart := h.apart

/-- A name is given to data that is new. -/
theorem Named.insert {collections : Bindings RootId} (h : Named db collections)
    (hr : db.roots.length < db'.roots.length) (name : String) :
    Named db' (collections.insert name db.roots.length) where
  distinct := h.distinct.insert name _
  root_lt name' r hmem := by
    rcases Bindings.mem_insert hmem with hold | ⟨-, rfl⟩
    · exact Nat.lt_trans (h.root_lt name' r hold) hr
    · exact hr
  apart name₁ name₂ r h₁ h₂ := by
    -- what had a name before is not new
    have hne {name' : String} (hold : (name', r) ∈ collections) : r ≠ db.roots.length :=
      Nat.ne_of_lt (h.root_lt name' r hold)
    rcases Bindings.mem_insert h₁ with hold₁ | ⟨rfl, hr₁⟩ <;>
      rcases Bindings.mem_insert h₂ with hold₂ | ⟨rfl, hr₂⟩
    · exact h.apart name₁ name₂ r hold₁ hold₂
    · exact absurd hr₂ (hne hold₁)
    · exact absurd hr₁ (hne hold₂)
    · rfl

theorem Named.erase {collections : Bindings RootId} (h : Named db collections) (name : String) :
    Named db (collections.erase name) where
  distinct := h.distinct.erase name
  root_lt name' r hmem := h.root_lt name' r (List.mem_filter.1 hmem).1
  apart name₁ name₂ r h₁ h₂ :=
    h.apart name₁ name₂ r (List.mem_filter.1 h₁).1 (List.mem_filter.1 h₂).1

/-- One collection was numbered before another. -/
def NumberedBefore (entries entries' : Entries) : Prop :=
  ∀ id e id' e', (id, e) ∈ entries → (id', e') ∈ entries' → e.generation < e'.generation

/-- Data was added behind the data there is, one collection after the other. -/
structure Loaded (db db' : Database) : Prop where
  host : db'.host = db.host
  offers : db'.offers = db.offers
  stores : db'.stores = db.stores
  generation : db.generation ≤ db'.generation
  roots : ∃ added : List Entries, db'.roots = db.roots ++ added ∧
    (∀ entries ∈ added, entries.Fresh db.generation db'.generation) ∧
    added.Pairwise NumberedBefore

theorem Loaded.refl (db : Database) : Loaded db db :=
  ⟨rfl, rfl, rfl, Nat.le_refl _, [], (List.append_nil _).symm, fun _ h => by simp at h, .nil⟩

theorem Loaded.trans {db'' : Database} (h : Loaded db db') (h' : Loaded db' db'') :
    Loaded db db'' where
  host := h'.host.trans h.host
  offers := h'.offers.trans h.offers
  stores := h'.stores.trans h.stores
  generation := Nat.le_trans h.generation h'.generation
  roots := by
    obtain ⟨added, hroots, hfresh, hbefore⟩ := h.roots
    obtain ⟨added', hroots', hfresh', hbefore'⟩ := h'.roots
    refine ⟨added ++ added', by rw [hroots', hroots, List.append_assoc], ?_, ?_⟩
    · intro entries hmem
      rcases List.mem_append.1 hmem with hmem | hmem
      · exact (hfresh entries hmem).mono (Nat.le_refl _) h'.generation
      · exact (hfresh' entries hmem).mono h.generation (Nat.le_refl _)
    · refine List.pairwise_append.2 ⟨hbefore, hbefore', ?_⟩
      intro entries hmem entries' hmem' id e id' e' he he'
      exact Nat.lt_of_lt_of_le ((hfresh entries hmem).lt_next id e he)
        ((hfresh' entries' hmem').first_le id' e' he')

/-- What was there is there. -/
theorem Loaded.entries (h : Loaded db db') (hr : r < db.roots.length) :
    db'.entries r = db.entries r := by
  obtain ⟨added, hroots, -, -⟩ := h.roots
  rw [Database.entries, Database.entries, hroots, List.getElem?_append_left hr]

/-- And what was not there is in order. -/
theorem Loaded.fresh (h : Loaded db db') (hr : db.roots.length ≤ r) :
    (db'.entries r).Fresh db.generation db'.generation := by
  obtain ⟨added, hroots, hfresh, -⟩ := h.roots
  rw [Database.entries, hroots, List.getElem?_append_right hr]
  cases hget : added[r - db.roots.length]? with
  | none => exact Entries.Fresh.nil
  | some entries => exact hfresh entries (List.mem_of_getElem? hget)

/-- Of two collections that were not there, the one before was numbered before. -/
theorem Loaded.numberedBefore (h : Loaded db db') {r' : RootId} (hr : db.roots.length ≤ r)
    (hlt : r < r') : NumberedBefore (db'.entries r) (db'.entries r') := by
  obtain ⟨added, hroots, -, hbefore⟩ := h.roots
  intro id e id' e' he he'
  have hr' : db.roots.length ≤ r' := Nat.le_trans hr (Nat.le_of_lt hlt)
  have hindex : r - db.roots.length < r' - db.roots.length := Nat.sub_lt_sub_right hr hlt
  rw [Database.entries, hroots, List.getElem?_append_right hr] at he
  rw [Database.entries, hroots, List.getElem?_append_right hr'] at he'
  cases hget : added[r - db.roots.length]? with
  | none => rw [hget] at he; cases he
  | some entries =>
    cases hget' : added[r' - db.roots.length]? with
    | none => rw [hget'] at he'; cases he'
    | some entries' =>
      rw [hget] at he
      rw [hget'] at he'
      obtain ⟨hi, rfl⟩ := List.getElem?_eq_some_iff.1 hget
      obtain ⟨hi', rfl⟩ := List.getElem?_eq_some_iff.1 hget'
      exact List.pairwise_iff_getElem.1 hbefore _ _ hi hi' hindex id e id' e' he he'

theorem Loaded.length_roots (h : Loaded db db') : db.roots.length ≤ db'.roots.length := by
  obtain ⟨added, hroots, -, -⟩ := h.roots
  simp [hroots]

/-- Taking over one collection after the other. -/
theorem loaded_loadCollections (collections : Bindings RootId) (db : Database)
    (members : List (String × Value)) (hnamed : Named db collections) :
    Loaded db (loadCollections collections db members).2 ∧
      Named (loadCollections collections db members).2
        (loadCollections collections db members).1 := by
  fun_induction loadCollections collections db members with
  | case1 collections db => exact ⟨Loaded.refl db, hnamed⟩
  | case2 collections db name members rest entries generation hload root db' hadd ih =>
    obtain ⟨hle, hfresh⟩ := Entries.fresh_load db.generation members
    rw [hload] at hle hfresh
    obtain ⟨rfl, rfl⟩ := Prod.mk.inj hadd
    -- this collection is new data, and the rest is loaded behind it
    have hfirst : Loaded db (({ db with generation }).addRoot entries).2 :=
      ⟨rfl, rfl, rfl, hle, [entries], rfl, fun _ hmem => List.mem_singleton.1 hmem ▸ hfresh,
        List.pairwise_singleton _ _⟩
    obtain ⟨hrest, hnamed⟩ := ih (hnamed.insert (by simp) name)
    exact ⟨hfirst.trans hrest, hnamed⟩
  | case3 collections db entry rest hobj ih => exact ih hnamed

/-- A snapshot that is taken over at all. -/
theorem loaded_loadSnapshot {v : Option Value} {collections : Bindings RootId}
    (h : db.loadSnapshot v = .ok (collections, db')) : Loaded db db' ∧ Named db' collections := by
  unfold loadSnapshot at h
  split at h
  · cases h; exact ⟨Loaded.refl db, Named.nil db⟩
  · cases h; exact ⟨Loaded.refl db, Named.nil db⟩
  · next members =>
    have := loaded_loadCollections [] db members (Named.nil db)
    rwa [Except.ok.inj h] at this
  · cases h

/-- **Initializing a store** loads what the host gives it, unless the store is
initialized. -/
theorem init_eq_ok (h : db.init s = .ok db') :
    ((db.collections? s).isSome ∧ db' = db) ∨
      ∃ snapshot names db₁, db.collections? s = none ∧ db.host.load? = .ok snapshot ∧
        db.loadSnapshot snapshot = .ok (names, db₁) ∧
        db' = db₁.modifyStore s fun store => { store with collections := some names } := by
  unfold init at h
  split at h
  · next hsome => exact .inl ⟨hsome, (Except.ok.inj h).symm⟩
  · next hnone =>
    obtain ⟨snapshot, hload, h⟩ := bind_eq_ok.1 h
    obtain ⟨⟨names, db₁⟩, hsnapshot, h⟩ := bind_eq_ok.1 h
    exact .inr ⟨snapshot, names, db₁, by simpa using hnone, hload, hsnapshot,
      (Except.ok.inj h).symm⟩

/-- What can be loaded is loaded by a store that is not initialized. -/
theorem init_of_load {v : Option Value} {names : Bindings RootId} {db₁ : Database}
    (hnone : db.collections? s = none) (hload : db.host.load? = .ok v)
    (hsnapshot : db.loadSnapshot v = .ok (names, db₁)) : db.init s =
      .ok (db₁.modifyStore s fun store => { store with collections := some names }) := by
  unfold init
  simp only [hnone, hload, bind, Except.bind, hsnapshot, Option.isSome_none, Bool.false_eq_true,
    if_false]
  rfl

/-- So it leaves the store as it is if it was initialized, and else gives it
names for what was loaded. -/
theorem init_ok (h : db.init s = .ok db') :
    ((db.collections? s).isSome ∧ db' = db) ∨
      (db.collections? s = none ∧ ∃ collections db₁, Loaded db db₁ ∧ Named db₁ collections ∧
        db' = db₁.modifyStore s fun store => { store with collections := some collections }) := by
  rcases init_eq_ok h with hsame | ⟨snapshot, names, db₁, hnone, -, hsnapshot, rfl⟩
  · exact .inl hsame
  · obtain ⟨hl, hnamed⟩ := loaded_loadSnapshot hsnapshot
    exact .inr ⟨hnone, names, db₁, hl, hnamed, rfl⟩

/-- The entries of a collection after a store was initialized. -/
theorem entries_init (h : db.init s = .ok db') (r : RootId) :
    db'.entries r = db.entries r ∨
      (db.roots.length ≤ r ∧ (db'.entries r).Fresh db.generation db'.generation) := by
  rcases init_ok h with ⟨-, rfl⟩ | ⟨-, collections, db₁, hl, -, rfl⟩
  · exact .inl rfl
  · rcases Nat.lt_or_ge r db.roots.length with hr | hr
    · exact .inl (hl.entries hr)
    · exact .inr ⟨hr, hl.fresh hr⟩

/-- The names of the stores after one was initialized. -/
theorem collections_init (h : db.init s = .ok db') (t : StoreId) :
    db'.collections? t = db.collections? t ∨
      (s = t ∧ db.collections? t = none ∧
        ∃ collections, db'.collections? t = some collections ∧ Named db' collections) := by
  rcases init_ok h with ⟨-, rfl⟩ | ⟨hnone, collections, db₁, hl, hnamed, rfl⟩
  · exact .inl rfl
  · rw [collections_modifyStore, hl.stores]
    by_cases hst : s = t
    · subst hst
      cases hs : db.stores[s]? with
      | none => exact .inl (by simp [collections?, hs])
      | some store => exact .inr ⟨rfl, hnone, collections, by simp, hnamed.distinct, hnamed.root_lt,
        hnamed.apart⟩
    · exact .inl (by simp only [if_neg hst]; rfl)

/-- **Opening a store** adds it and initializes it. -/
theorem openStore_eq_ok_iff {config : Config} : db.openStore config = .ok (s, db') ↔
    s = db.stores.length ∧ (db.addStore config).2.init s = .ok db' := by
  simp only [openStore, addStore, bind, Except.bind]
  constructor
  · intro h
    split at h
    · cases h
    · next hinit =>
      obtain ⟨rfl, rfl⟩ := Prod.mk.inj (Except.ok.inj h)
      exact ⟨rfl, hinit⟩
  · rintro ⟨rfl, hinit⟩
    rw [hinit]
    rfl

/-- The stores after another was added. -/
theorem getElem?_addStore (config : Config) (t : StoreId) : (db.addStore config).2.stores[t]? =
    if t = db.stores.length then some (.new config) else db.stores[t]? := by
  simp only [addStore, List.getElem?_append]
  rcases Nat.lt_trichotomy t db.stores.length with h | h | h
  · simp [h, Nat.ne_of_lt h]
  · simp [h]
  · have hlt : ¬ t < db.stores.length := Nat.not_lt.2 (Nat.le_of_lt h)
    simp [hlt, Nat.ne_of_gt h, Nat.sub_ne_zero_of_lt h]

/-- A store that is added has no names yet. -/
theorem collections_addStore (config : Config) (t : StoreId) :
    (db.addStore config).2.collections? t = db.collections? t := by
  rw [collections?, collections?, getElem?_addStore]
  split
  · next h =>
    subst h
    rw [List.getElem?_eq_none (Nat.le_refl _)]
    rfl
  · rfl

theorem collections_addStore_self (config : Config) :
    (db.addStore config).2.collections? db.stores.length = none := by
  rw [collections_addStore, collections?, List.getElem?_eq_none (Nat.le_refl _)]
  rfl

end Database

end DocumentStore
