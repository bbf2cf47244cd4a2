import DocumentStore.Proofs.Loading

/-!
# Soundness — what holds of every database that operations produce

Ids are distinct and not empty, generations are behind the next one, the
names of a store are distinct and those of data, and only an initialized
store is dirty (`Database.Sound`). Beside the invariant stands the relation
between a database and a later one (`Evolves`): of the stamps a collection
had, an id and a generation each, some are kept, in their order, and what is
new comes behind them under new generations. So a stamp that is gone never
comes back.

Both are proved of the parts an operation has: an edit, a mark, flushes, a
load, and a store that is added.
-/

namespace DocumentStore

namespace Entries

variable {entries : Entries} {id : String} {e : Entry}

/-- The ids and generations of entries, in order. -/
def stamps (entries : Entries) : Bindings Nat := Bindings.mapValues entries Entry.generation

@[simp] theorem keys_stamps (entries : Entries) :
    Bindings.keys entries.stamps = Bindings.keys entries :=
  Bindings.keys_mapValues entries Entry.generation

theorem mem_stamps_iff {generation : Nat} :
    (id, generation) ∈ entries.stamps ↔ ∃ e, (id, e) ∈ entries ∧ e.generation = generation := by
  simp only [stamps, Bindings.mapValues, List.mem_map, Prod.exists, Prod.mk.injEq]
  constructor
  · rintro ⟨id', e, he, rfl, hg⟩
    exact ⟨e, he, hg⟩
  · rintro ⟨e, he, hg⟩
    exact ⟨id, e, he, rfl, hg⟩

theorem stamps_append (entries entries' : Entries) :
    Entries.stamps (entries ++ entries') = entries.stamps ++ entries'.stamps :=
  List.map_append

/-- Changing documents keeps the stamps. -/
theorem stamps_map {f : String × Entry → Entry} (hf : ∀ e, (f e).generation = e.2.generation) :
    Entries.stamps (entries.map fun e => (e.1, f e)) = entries.stamps := by
  simp only [stamps, Bindings.mapValues, List.map_map]
  refine List.map_congr_left fun e _ => ?_
  simp only [Function.comp_apply, hf]

theorem stamps_sublist {entries' : Entries} (h : List.Sublist entries' entries) :
    List.Sublist entries'.stamps entries.stamps :=
  h.map _

/-- Stamps of which some were dropped and none are new. -/
theorem exists_kept {stamps stamps' : Bindings Nat} {first : Nat}
    (h : List.Sublist stamps' stamps) :
    ∃ kept new : Bindings Nat, stamps' = kept ++ new ∧ List.Sublist kept stamps ∧
      ∀ p ∈ new, first ≤ p.2 :=
  ⟨stamps', [], (List.append_nil _).symm, h, fun _ hp => by simp at hp⟩

end Entries

namespace Database

variable {db db' db'' : Database} {s t : StoreId} {r : RootId} {e : Edit}

/-! ## Later databases -/

/-- **How a database may change**: stores stay initialized, data stays, and
each collection keeps some of its stamps, in order, before new ones. -/
structure Evolves (db db' : Database) : Prop where
  initialized : ∀ s, (db.collections? s).isSome → (db'.collections? s).isSome
  roots : db.roots.length ≤ db'.roots.length
  generation : db.generation ≤ db'.generation
  stamps : ∀ r, ∃ kept new : Bindings Nat, (db'.entries r).stamps = kept ++ new ∧
    List.Sublist kept (db.entries r).stamps ∧ ∀ p ∈ new, db.generation ≤ p.2

namespace Evolves

theorem trans (h : Evolves db db') (h' : Evolves db' db'') : Evolves db db'' where
  initialized s hs := h'.initialized s (h.initialized s hs)
  roots := Nat.le_trans h.roots h'.roots
  generation := Nat.le_trans h.generation h'.generation
  stamps r := by
    obtain ⟨kept, new, heq, hkept, hnew⟩ := h.stamps r
    obtain ⟨kept', new', heq', hkept', hnew'⟩ := h'.stamps r
    rw [heq] at hkept'
    -- what the second keeps is a part of what the first kept and a part of what was new to it
    obtain ⟨kept₁, kept₂, rfl, h₁, h₂⟩ := List.sublist_append_iff.1 hkept'
    refine ⟨kept₁, kept₂ ++ new', by rw [heq', List.append_assoc], h₁.trans hkept, ?_⟩
    intro p hp
    rcases List.mem_append.1 hp with hp | hp
    · exact hnew p (h₂.subset hp)
    · exact Nat.le_trans h.generation (hnew' p hp)

theorem of_sameData (h : SameData db db') : Evolves db db' where
  initialized s hs := by rwa [h.collections]
  roots := Nat.le_of_eq (congrArg List.length h.roots).symm
  generation := Nat.le_of_eq h.generation.symm
  stamps r := Entries.exists_kept (h.entries r ▸ List.Sublist.refl _)

theorem refl (db : Database) : Evolves db db := of_sameData (SameData.refl db)

end Evolves

/-- Edits keep stamps in order and put new ones behind. -/
theorem evolves_perform (ha : e.Allowed db s) : Evolves db (e.perform s db) where
  initialized t ht := by
    rw [collections_perform ha]
    split
    · rwa [Option.isSome_map]
    · exact ht
  roots := length_roots_perform
  generation := by
    rw [generation_perform]
    split
    · exact Nat.le_succ _
    · exact Nat.le_refl _
  stamps r := by
    have hsame : ∃ kept new : Bindings Nat, (db.entries r).stamps = kept ++ new ∧
        List.Sublist kept (db.entries r).stamps ∧ ∀ p ∈ new, db.generation ≤ p.2 :=
      Entries.exists_kept (List.Sublist.refl _)
    rw [entries_perform ha]
    cases e with
    | create name => exact hsame
    | dismiss name => exact hsame
    | put r' id fields words =>
      simp only [Edit.rewrite]
      split
      · refine ⟨(db.entries r).stamps, [(id, db.generation)], Entries.stamps_append _ _,
          List.Sublist.refl _, fun p hp => ?_⟩
        obtain rfl := List.mem_singleton.1 hp
        exact Nat.le_refl _
      · exact hsame
    | patch r' selects p =>
      simp only [Edit.rewrite]
      split
      · rw [Entries.stamps_map fun e => by split <;> rfl]
        exact hsame
      · exact hsame
    | discard r' selects =>
      simp only [Edit.rewrite]
      split
      · exact Entries.exists_kept (Entries.stamps_sublist List.filter_sublist)
      · exact hsame

/-- Loading puts new stamps into new data. -/
theorem evolves_init (h : db.init s = .ok db') : Evolves db db' := by
  have hcollections := collections_init h
  rcases init_ok h with ⟨-, rfl⟩ | ⟨-, collections, db₁, hl, -, rfl⟩
  · exact Evolves.refl db'
  refine ⟨fun t ht => ?_, hl.length_roots, hl.generation, fun r => ?_⟩
  · rcases hcollections t with hsame | ⟨-, -, collections', hc, -⟩
    · rwa [hsame]
    · rw [hc]; rfl
  · have hentries : (db₁.modifyStore s fun store =>
        { store with collections := some collections }).entries r = db₁.entries r := rfl
    rw [hentries]
    rcases Nat.lt_or_ge r db.roots.length with hr | hr
    · rw [hl.entries hr]
      exact Entries.exists_kept (List.Sublist.refl _)
    · -- there was no such collection, and all that was loaded into it is new
      refine ⟨[], _, (List.nil_append _).symm, List.nil_sublist _, fun p hp => ?_⟩
      obtain ⟨e, he, hg⟩ := Entries.mem_stamps_iff.1 hp
      exact hg ▸ (hl.fresh hr).first_le _ e he

theorem evolves_addStore (config : Config) : Evolves db (db.addStore config).2 where
  initialized t ht := by rwa [collections_addStore]
  roots := Nat.le_refl _
  generation := Nat.le_refl _
  stamps r := (Evolves.refl db).stamps r

/-! ## What is kept of the stores -/

section Keeps

variable {α : Type} {π : Store → α}

/-- Edits change of a store no more than its names, -/
theorem keeps_perform (h : ∀ store names, π { store with collections := names } = π store) :
    Keeps π db (e.perform s db) := by
  cases e with
  | create name => exact keeps_modifyStore fun store => h store _
  | dismiss name => exact keeps_modifyStore fun store => h store _
  | put r id fields words => exact fun _ => rfl
  | patch r selects p => exact fun _ => rfl
  | discard r selects => exact fun _ => rfl

/-- and so does a load. -/
theorem keeps_init (h : ∀ store names, π { store with collections := names } = π store)
    (hinit : db.init s = .ok db') : Keeps π db db' := by
  rcases init_ok hinit with ⟨-, rfl⟩ | ⟨-, names, db₁, hl, -, rfl⟩
  · exact .refl π db'
  · have hloaded : Keeps π db db₁ := fun t => by rw [hl.stores]
    exact hloaded.trans (keeps_modifyStore fun store => h store _)

end Keeps

/-! ## The marks of the stores -/

theorem isDirty_congr (h : Keeps Store.dirty db db') (t : StoreId) :
    db'.isDirty t = db.isDirty t := by
  simpa [isDirty, Option.any_map] using congrArg (Option.any id) (h t)

theorem isDirty_modifyStore {f : Store → Store} : (db.modifyStore s f).isDirty t =
    (db.stores[t]?).any fun store => (if s = t then f store else store).dirty := by
  simp only [isDirty, modifyStore, List.getElem?_modify]
  cases db.stores[t]? with
  | none => rfl
  | some store => rfl

theorem isDirty_mark : (db.mark s).isDirty t =
    if s = t then decide (t < db.stores.length) else db.isDirty t := by
  rw [mark, isDirty_modifyStore]
  split
  · cases hget : db.stores[t]? with
    | none => simp [List.getElem?_eq_none_iff.1 hget]
    | some store => simp [(List.getElem?_eq_some_iff.1 hget).1, Store.hear]
  · rfl

theorem isDirty_tell {signal : Signal} : (db.tell s signal).isDirty t = db.isDirty t :=
  isDirty_congr (keeps_tell fun _ => rfl) t

/-- A flush clears the mark of its store. -/
theorem isDirty_flush : (db.flush s).1.isDirty t = if s = t then false else db.isDirty t := by
  have hclear : (db.modifyStore s fun store => { store with dirty := false }).isDirty t =
      if s = t then false else db.isDirty t := by
    rw [isDirty_modifyStore]
    split
    · cases db.stores[t]? <;> rfl
    · rfl
  unfold flush
  split
  · dsimp only
    split
    · rw [isDirty_congr (keeps_persist fun _ _ => rfl), hclear]
    · exact hclear
  · next hclean =>
    split
    · next h => subst h; simpa using hclean
    · rfl

theorem isDirty_perform : (e.perform s db).isDirty t = db.isDirty t :=
  isDirty_congr (keeps_perform fun _ _ => rfl) t

theorem isDirty_init (h : db.init s = .ok db') : db'.isDirty t = db.isDirty t :=
  isDirty_congr (keeps_init (fun _ _ => rfl) h) t

theorem isDirty_addStore (config : Config) : (db.addStore config).2.isDirty t = db.isDirty t := by
  rw [isDirty, isDirty, getElem?_addStore]
  split
  · next h =>
    subst h
    rw [List.getElem?_eq_none (Nat.le_refl _)]
    rfl
  · rfl

/-- A store that is marked is there. -/
theorem lt_length_of_isDirty (h : db.isDirty s = true) : s < db.stores.length := by
  unfold isDirty at h
  cases hs : db.stores[s]? with
  | none => rw [hs] at h; cases h
  | some store => exact (List.getElem?_eq_some_iff.1 hs).1

/-! ## What edits keep -/

/-- Edits keep the ids of a collection distinct, -/
theorem distinct_perform (ha : e.Allowed db s) (hd : Bindings.Distinct (db.entries r)) :
    Bindings.Distinct ((e.perform s db).entries r) := by
  rw [entries_perform ha]
  cases e with
  | create name => exact hd
  | dismiss name => exact hd
  | put r' id fields words =>
    simp only [Edit.rewrite]
    split
    · next h =>
      have hid : id ∉ (db.entries r).keys := h ▸ ha.2.2.2.1
      rw [← Bindings.insert_of_not_mem hid]
      exact hd.insert id _
    · exact hd
  | patch r' selects p =>
    simp only [Edit.rewrite]
    split
    · exact hd.map _
    · exact hd
  | discard r' selects =>
    simp only [Edit.rewrite]
    split
    · exact hd.sublist List.filter_sublist
    · exact hd

/-- and the names of a store names of data that is there. -/
theorem Named.perform {collections : Bindings RootId} (h : Named db collections) (e : Edit) :
    Named (e.perform s db) (e.rename db.roots.length collections) := by
  have hnamed : Named (e.perform s db) collections := h.mono length_roots_perform
  cases e with
  | create name => exact h.insert (by simp [Edit.perform, addRoot, modifyStore]) name
  | dismiss name => exact hnamed.erase name
  | put r id fields words => exact hnamed
  | patch r selects p => exact hnamed
  | discard r selects => exact hnamed

/-! ## The invariant -/

/-- **The invariant of a database.** -/
structure Sound (db : Database) : Prop where
  distinct : ∀ r, Bindings.Distinct (db.entries r)
  id_ne : ∀ r id e, (id, e) ∈ db.entries r → id ≠ ""
  lt_generation : ∀ r id e, (id, e) ∈ db.entries r → e.generation < db.generation
  named : ∀ s collections, db.collections? s = some collections → Named db collections
  initialized : ∀ s, db.isDirty s = true → (db.collections? s).isSome

theorem sound_new (host : Host) (words : List UInt32) : Sound (Database.new host words) where
  distinct _ := List.nodup_nil
  id_ne _ _ _ h := by simp [Database.new, Database.entries] at h
  lt_generation _ _ _ h := by simp [Database.new, Database.entries] at h
  named _ _ h := by simp [Database.new, collections?] at h
  initialized _ h := by simp [Database.new, isDirty] at h

namespace Sound

/-- The same data is sound, if no mark is set. -/
theorem of_sameData (hdb : Sound db) (h : SameData db db')
    (hdirty : ∀ t, db'.isDirty t = true → (db.collections? t).isSome) : Sound db' where
  distinct r := h.entries r ▸ hdb.distinct r
  id_ne r id e he := hdb.id_ne r id e (h.entries r ▸ he)
  lt_generation r id e he := h.generation ▸ hdb.lt_generation r id e (h.entries r ▸ he)
  named t collections hc := (hdb.named t collections (h.collections t ▸ hc)).mono
    (Nat.le_of_eq (congrArg List.length h.roots).symm)
  initialized t ht := by rw [h.collections]; exact hdirty t ht

theorem flush (hdb : Sound db) (s : StoreId) : Sound (db.flush s).1 := by
  refine hdb.of_sameData sameData_flush fun t ht => hdb.initialized t ?_
  rw [isDirty_flush] at ht
  split at ht
  · cases ht
  · exact ht

theorem tell (hdb : Sound db) (s : StoreId) (signal : Signal) : Sound (db.tell s signal) :=
  hdb.of_sameData sameData_tell fun t ht => hdb.initialized t (isDirty_tell ▸ ht)

theorem setClock (hdb : Sound db) (time : Instant) : Sound { db with clock := time } :=
  hdb.of_sameData (sameData_clock time) hdb.initialized

theorem upkept (hdb : Sound db) (h : Upkept db db') : Sound db' :=
  h.induction hdb (fun _ s hdb => hdb.flush s) (fun _ s signal hdb => hdb.tell s signal)
    fun _ time hdb => hdb.setClock time

theorem mark (hdb : Sound db) (hs : (db.collections? s).isSome) : Sound (db.mark s) := by
  refine hdb.of_sameData sameData_mark fun t ht => ?_
  rw [isDirty_mark] at ht
  split at ht
  · next h => exact h ▸ hs
  · exact hdb.initialized t ht

theorem addStore (hdb : Sound db) (config : Config) : Sound (db.addStore config).2 where
  distinct := hdb.distinct
  id_ne := hdb.id_ne
  lt_generation := hdb.lt_generation
  named t collections hc :=
    (hdb.named t collections (collections_addStore config t ▸ hc)).mono (Nat.le_refl _)
  initialized t ht := by
    rw [collections_addStore]
    exact hdb.initialized t (isDirty_addStore config ▸ ht)

theorem init (hdb : Sound db) (h : db.init s = .ok db') : Sound db' := by
  have hcollections := collections_init h
  have hdirty (t : StoreId) := isDirty_init (t := t) h
  have hevolves := evolves_init h
  have hinitialized (t : StoreId) (ht : db'.isDirty t = true) : (db'.collections? t).isSome :=
    hevolves.initialized t (hdb.initialized t (hdirty t ▸ ht))
  have hnamed (t : StoreId) (collections : Bindings RootId)
      (hc : db'.collections? t = some collections) : Named db' collections := by
    rcases hcollections t with hsame | ⟨-, -, _, hc', hnamed⟩
    · exact (hdb.named t collections (hsame ▸ hc)).mono hevolves.roots
    · rw [hc'] at hc
      exact Option.some.inj hc ▸ hnamed
  rcases init_ok h with ⟨-, rfl⟩ | ⟨-, _, db₁, hl, -, rfl⟩
  · exact hdb
  refine ⟨fun r => ?_, fun r id e he => ?_, fun r id e he => ?_, hnamed, hinitialized⟩
  -- each for data that was there, which is as it was, and for data that was loaded
  all_goals rcases Nat.lt_or_ge r db.roots.length with hr | hr
  · exact hl.entries hr ▸ hdb.distinct r
  · exact (hl.fresh hr).distinct
  · exact hdb.id_ne r id e (hl.entries hr ▸ he)
  · exact (hl.fresh hr).id_ne id e he
  · exact Nat.lt_of_lt_of_le (hdb.lt_generation r id e (hl.entries hr ▸ he)) hl.generation
  · exact (hl.fresh hr).lt_next id e he

/-- **Edits keep the invariant.** -/
theorem perform (hdb : Sound db) (ha : e.Allowed db s) : Sound (e.perform s db) where
  distinct r := distinct_perform ha (hdb.distinct r)
  id_ne r id e' he := by
    rw [entries_perform ha] at he
    rcases Edit.mem_rewrite he with ⟨e₀, he₀, -⟩ | ⟨fields, words, rfl, rfl⟩
    · exact hdb.id_ne r id e₀ he₀
    · exact ha.2.2.1
  lt_generation r id e' he := by
    rw [entries_perform ha] at he
    rcases Edit.mem_rewrite_generation he with ⟨e₀, he₀, hgen⟩ | ⟨fields, words, rfl, rfl⟩
    · rw [hgen]
      exact Nat.lt_of_lt_of_le (hdb.lt_generation r id e₀ he₀) (evolves_perform ha).generation
    · exact Nat.lt_succ_self db.generation
  named t collections hc := by
    rw [collections_perform ha] at hc
    split at hc
    · obtain ⟨collections', hc', rfl⟩ := Option.map_eq_some_iff.1 hc
      exact (hdb.named t collections' hc').perform e
    · exact (hdb.named t collections hc).mono length_roots_perform
  initialized t ht := by
    rw [isDirty_perform] at ht
    exact (evolves_perform ha).initialized t (hdb.initialized t ht)

end Sound

end Database

end DocumentStore
