import DocumentStore.Proofs.Upkeep

/-!
# Edits — what an operation does to the data

Of all operations only ten change the data of collections or the names of
a store, and they change them in five ways: a name is given to new data or
taken away, a document is put at the end, the entries that something
selects are patched, or they are discarded. An `Edit` is one such change.
It says all that the operation does before its store is marked, so that a
property of the data is proved of five edits and not of ten operations.

Seen from one collection, an edit rewrites a list of entries
(`Edit.rewrite`, `entries_perform`); seen from the stores, it changes at
most the names of the one it was made through (`collections_perform`).
-/

namespace DocumentStore

/-- A change of the data. -/
inductive Edit where
  /-- Gives a name to new, empty data. -/
  | create (name : String)
  /-- Takes a name away. -/
  | dismiss (name : String)
  /-- Stores a document, and leaves the words not drawn for its id. -/
  | put (r : RootId) (id : String) (fields : Document) (words : List UInt32)
  /-- Patches the selected entries. -/
  | patch (r : RootId) (selects : String → Entry → Bool) (p : Patch)
  /-- Discards the selected entries. -/
  | discard (r : RootId) (selects : String → Entry → Bool)

namespace Edit

/-- Makes the edit through a store, which it does not mark. -/
def perform (s : StoreId) (db : Database) : Edit → Database
  | .create name =>
    let (root, db') := db.addRoot []
    db'.modifyStore s fun store =>
      { store with collections := some (((db.collections? s).getD []).insert name root) }
  | .dismiss name =>
    db.modifyStore s fun store =>
      { store with collections := some (((db.collections? s).getD []).erase name) }
  | .put r id fields words => { db with words }.putDocument r id fields
  | .patch r selects p => db.setEntries r ((db.entries r).map fun e =>
      (e.1, if selects e.1 e.2 then e.2.patch p else e.2))
  | .discard r selects => db.setEntries r ((db.entries r).filter fun e => !selects e.1 e.2)

/-- What operations see to before they make an edit. -/
def Allowed (db : Database) (s : StoreId) : Edit → Prop
  | .create name => ∃ collections, db.collections? s = some collections ∧ name ∉ collections.keys
  | .put r id fields _ =>
    (db.collections? s).isSome ∧ r < db.roots.length ∧ id ≠ "" ∧ id ∉ (db.entries r).keys ∧
      idField ∉ Bindings.keys fields
  | _ => (db.collections? s).isSome

/-- What the edit makes of the entries of a collection, the next generation
being given. -/
def rewrite (generation : Nat) (r : RootId) (entries : Entries) : Edit → Entries
  | .put r' id fields _ => if r' = r then entries ++ [(id, ⟨generation, fields⟩)] else entries
  | .patch r' selects p =>
    if r' = r then entries.map fun e => (e.1, if selects e.1 e.2 then e.2.patch p else e.2)
    else entries
  | .discard r' selects =>
    if r' = r then entries.filter fun e => !selects e.1 e.2 else entries
  | _ => entries

/-- What the edit makes of the names of its store, the number of new data
being given. -/
def rename (root : RootId) (collections : Bindings RootId) : Edit → Bindings RootId
  | .create name => collections.insert name root
  | .dismiss name => collections.erase name
  | _ => collections

/-- **Where an entry comes from** after an edit: it was there, patched or
not, or it is the document that was put. -/
theorem mem_rewrite {generation : Nat} {r : RootId} {entries : Entries} {edit : Edit} {id : String}
    {e : Entry} (h : (id, e) ∈ edit.rewrite generation r entries) :
    (∃ e₀, (id, e₀) ∈ entries ∧
        (e = e₀ ∨ ∃ selects p, edit = .patch r selects p ∧ selects id e₀ = true ∧ e = e₀.patch p)) ∨
      ∃ fields words, edit = .put r id fields words ∧ e = ⟨generation, fields⟩ := by
  have hsame (hmem : (id, e) ∈ entries) : ∃ e₀, (id, e₀) ∈ entries ∧
      (e = e₀ ∨ ∃ selects p, edit = .patch r selects p ∧ selects id e₀ = true ∧ e = e₀.patch p) :=
    ⟨e, hmem, .inl rfl⟩
  cases edit with
  | create name => exact .inl (hsame h)
  | dismiss name => exact .inl (hsame h)
  | put r' id' fields words =>
    simp only [rewrite] at h
    split at h
    · next hr =>
      rcases List.mem_append.1 h with h | h
      · exact .inl (hsame h)
      · cases List.mem_singleton.1 h
        exact .inr ⟨fields, words, by rw [hr], rfl⟩
    · exact .inl (hsame h)
  | patch r' selects p =>
    simp only [rewrite] at h
    split at h
    · next hr =>
      obtain ⟨⟨id', e₀⟩, he₀, heq⟩ := List.mem_map.1 h
      cases heq
      refine .inl ⟨e₀, he₀, ?_⟩
      simp only
      split
      · next hsel => exact .inr ⟨selects, p, by rw [hr], hsel, rfl⟩
      · exact .inl rfl
    · exact .inl (hsame h)
  | discard r' selects =>
    simp only [rewrite] at h
    split at h
    · exact .inl (hsame (List.mem_filter.1 h).1)
    · exact .inl (hsame h)

/-- **Where a generation comes from**: the id was there under it, or it is that of the
document that was put. -/
theorem mem_rewrite_generation {generation : Nat} {r : RootId} {entries : Entries} {edit : Edit}
    {id : String} {e : Entry} (h : (id, e) ∈ edit.rewrite generation r entries) :
    (∃ e₀, (id, e₀) ∈ entries ∧ e.generation = e₀.generation) ∨
      ∃ fields words, edit = .put r id fields words ∧ e = ⟨generation, fields⟩ := by
  refine (mem_rewrite h).imp_left ?_
  rintro ⟨e₀, he₀, heq | ⟨selects, p, -, -, heq⟩⟩
  · exact ⟨e₀, he₀, by rw [heq]⟩
  · exact ⟨e₀, he₀, by rw [heq]; rfl⟩

end Edit

namespace Database

variable {db : Database} {s t : StoreId} {r r' : RootId} {e : Edit} {entries : Entries}

/-! ## Seen from one collection -/

theorem entries_of_length_le (h : db.roots.length ≤ r) : db.entries r = [] := by
  rw [Database.entries, List.getElem?_eq_none h, Option.getD_none]

/-- Data that was replaced is what replaced it. -/
theorem entries_setEntries (h : r < db.roots.length ∨ entries = []) :
    (db.setEntries r entries).entries r' = if r = r' then entries else db.entries r' := by
  simp only [Database.entries, setEntries, List.getElem?_set]
  by_cases hr : r = r'
  · subst hr
    rcases h with h | rfl
    · simp [h]
    · by_cases hlen : r < db.roots.length <;> simp [hlen]
  · simp [hr]

/-- Data that a function replaced, where it makes nothing of nothing. -/
theorem entries_setEntries_apply {f : Entries → Entries} (hf : f [] = []) :
    (db.setEntries r (f (db.entries r))).entries r' =
      if r = r' then f (db.entries r') else db.entries r' := by
  have hlt : r < db.roots.length ∨ f (db.entries r) = [] := by
    rcases Nat.lt_or_ge r db.roots.length with h | h
    · exact .inl h
    · exact .inr (by rw [entries_of_length_le h, hf])
  rw [entries_setEntries hlt]
  split
  · next h => rw [h]
  · rfl

/-- New data is behind the data there is. -/
theorem entries_addRoot :
    (db.addRoot entries).2.entries r = if r = db.roots.length then entries else db.entries r := by
  simp only [Database.entries, addRoot, List.getElem?_append]
  rcases Nat.lt_trichotomy r db.roots.length with h | h | h
  · simp [h, Nat.ne_of_lt h]
  · simp [h]
  · have hlt : ¬ r < db.roots.length := Nat.not_lt.2 (Nat.le_of_lt h)
    simp [hlt, Nat.ne_of_gt h, Nat.sub_ne_zero_of_lt h]

/-- Patching rewrites one collection. -/
theorem entries_perform_patch {selects : String → Entry → Bool} {p : Patch} :
    ((Edit.patch r selects p).perform s db).entries r' =
      if r = r' then (db.entries r').map fun e =>
        (e.1, if selects e.1 e.2 then e.2.patch p else e.2)
      else db.entries r' :=
  entries_setEntries_apply (f := List.map fun e =>
    (e.1, if selects e.1 e.2 then e.2.patch p else e.2)) rfl

/-- The keys stay distinct when entries are patched. -/
theorem distinct_perform_patch {selects : String → Entry → Bool} {p : Patch}
    (hd : Bindings.Distinct (db.entries r)) :
    Bindings.Distinct (((Edit.patch r selects p).perform s db).entries r) := by
  rw [entries_perform_patch, if_pos rfl]
  exact hd.map _

/-- Discarding rewrites one collection. -/
theorem entries_perform_discard {selects : String → Entry → Bool} :
    ((Edit.discard r selects).perform s db).entries r' =
      if r = r' then (db.entries r').filter fun e => !selects e.1 e.2 else db.entries r' :=
  entries_setEntries_apply (f := List.filter fun e => !selects e.1 e.2) rfl

/-- **An edit rewrites entries.** -/
theorem entries_perform (ha : e.Allowed db s) (r : RootId) :
    (e.perform s db).entries r = e.rewrite db.generation r (db.entries r) := by
  cases e with
  | create name =>
    have hnew : (db.addRoot []).2.entries r = db.entries r := by
      rw [entries_addRoot]
      split
      · next h => rw [entries_of_length_le (Nat.le_of_eq h.symm)]
      · rfl
    exact hnew
  | dismiss name => rfl
  | put r' id fields words =>
    obtain ⟨-, hr, -, hid, -⟩ := ha
    have hput : (db.entries r').insert id ⟨db.generation, fields⟩
        = db.entries r' ++ [(id, ⟨db.generation, fields⟩)] := Bindings.insert_of_not_mem hid
    simp only [Edit.rewrite]
    refine (entries_setEntries (.inl hr)).trans ?_
    split
    · next h => exact h ▸ hput
    · rfl
  | patch r' selects p => exact entries_perform_patch
  | discard r' selects => exact entries_perform_discard

/-! ## Seen from the stores -/

theorem collections_modifyStore {f : Store → Store} :
    (db.modifyStore s f).collections? t =
      (db.stores[t]?).bind fun store => (if s = t then f store else store).collections := by
  simp only [collections?, modifyStore, List.getElem?_modify]
  cases db.stores[t]? with
  | none => rfl
  | some store => rfl

/-- **An edit renames the data of its store.** -/
theorem collections_perform (ha : e.Allowed db s) (t : StoreId) :
    (e.perform s db).collections? t =
      if s = t then (db.collections? t).map fun collections => e.rename db.roots.length collections
      else db.collections? t := by
  have hid (o : Option (Bindings RootId)) : (o.map fun collections => collections) = o := by
    cases o <;> rfl
  cases e with
  | create name =>
    refine collections_modifyStore.trans ?_
    split
    · next h =>
      subst h
      obtain ⟨collections, hc, -⟩ := ha
      obtain ⟨store, hs, -⟩ := Option.bind_eq_some_iff.1 hc
      dsimp only [addRoot]
      rw [hs, hc]
      rfl
    · rfl
  | dismiss name =>
    refine collections_modifyStore.trans ?_
    split
    · next h =>
      subst h
      obtain ⟨collections, hc⟩ := Option.isSome_iff_exists.1 ha
      obtain ⟨store, hs, -⟩ := Option.bind_eq_some_iff.1 hc
      rw [hs, hc]
      rfl
    · rfl
  | put r id fields words => simp only [Edit.rename, hid, ite_self]; rfl
  | patch r selects p => simp only [Edit.rename, hid, ite_self]; rfl
  | discard r selects => simp only [Edit.rename, hid, ite_self]; rfl

/-- No data goes. -/
theorem length_roots_perform : db.roots.length ≤ (e.perform s db).roots.length := by
  cases e with
  | create name => simp [Edit.perform, addRoot, modifyStore]
  | dismiss name => exact Nat.le_refl _
  | put r id fields words => exact Nat.le_of_eq (List.length_set ..).symm
  | patch r selects p => exact Nat.le_of_eq (List.length_set ..).symm
  | discard r selects => exact Nat.le_of_eq (List.length_set ..).symm

/-- A generation is used up by a document that is put, and by nothing else. -/
theorem generation_perform : (e.perform s db).generation =
    match e with
    | .put .. => db.generation + 1
    | _ => db.generation := by
  cases e <;> rfl

theorem length_stores_perform : (e.perform s db).stores.length = db.stores.length := by
  cases e with
  | create name => exact List.length_modify ..
  | dismiss name => exact List.length_modify ..
  | put r id fields words => rfl
  | patch r selects p => rfl
  | discard r selects => rfl

end Database

end DocumentStore
