import DocumentStore.Session
import Mathlib.Logic.Relation

/-!
# Upkeep — what persisting leaves alone

Marking a store, flushing it, letting its worker receive a signal and letting
time pass change the stores' marks, counts and workers, the log, the host and
the clock, and nothing else: the data of the collections, the names and the
supplies of generations and words stay (`SameData`). Everything an operation
does about persisting after its own work is a number of such deeds (`Upkept`),
which is all that most proofs need to know about it.
-/

namespace DocumentStore

namespace Database

variable {db db' : Database} {s t : StoreId} {r : RootId}

/-! ## What is kept of stores -/

section Keeps

variable {α : Type} {π : Store → α}

/-- Something of every store stays as it is. -/
def Keeps (π : Store → α) (db db' : Database) : Prop :=
  ∀ t : StoreId, (db'.stores[t]?).map π = (db.stores[t]?).map π

theorem Keeps.refl (π : Store → α) (db : Database) : Keeps π db db := fun _ => rfl

theorem Keeps.trans {db'' : Database} (h : Keeps π db db') (h' : Keeps π db' db'') :
    Keeps π db db'' := fun t => (h' t).trans (h t)

/-- What is kept may be missing. -/
theorem Keeps.bind_eq {π : Store → Option α} (h : Keeps π db db') (t : StoreId) :
    (db'.stores[t]?).bind π = (db.stores[t]?).bind π := by
  simpa [Option.bind_map] using congrArg (Option.bind · id) (h t)

/-- Changing a store in anything else keeps it. -/
theorem keeps_modifyStore {f : Store → Store} (h : ∀ store, π (f store) = π store) :
    Keeps π db (db.modifyStore s f) := by
  intro t
  simp only [modifyStore, List.getElem?_modify]
  cases db.stores[t]? with
  | none => rfl
  | some store =>
    simp only [Option.map_eq_map, Option.map_some]
    split
    · rw [h]
    · rfl

theorem keeps_persist {v : Value} (h : ∀ store n, π { store with flushes := n } = π store) :
    Keeps π db (db.persist s v) := by
  have hlog (host : Host) (offers : List Offer) : Keeps π db { db with host, offers } :=
    fun _ => rfl
  unfold persist
  dsimp only
  split
  · exact (hlog _ _).trans (keeps_modifyStore fun store => h store _)
  · exact hlog _ _

/-- **A flush** changes of a store the mark and the count. -/
theorem keeps_flush (hdirty : ∀ store b, π { store with dirty := b } = π store)
    (hflushes : ∀ store n, π { store with flushes := n } = π store) :
    Keeps π db (db.flush s).1 := by
  have hclear : Keeps π db (db.modifyStore s fun store => { store with dirty := false }) :=
    keeps_modifyStore fun store => hdirty store false
  unfold flush
  split
  · dsimp only
    split
    · exact hclear.trans (keeps_persist hflushes)
    · exact hclear
  · exact .refl π db

/-- A mark changes of a store itself and the worker, -/
theorem keeps_mark (hdirty : ∀ store b, π { store with dirty := b } = π store)
    (hhear : ∀ (store : Store) signal, π (store.hear signal) = π store) :
    Keeps π db (db.mark s) :=
  keeps_modifyStore fun store => (hhear _ _).trans (hdirty store true)

/-- and a signal the worker. -/
theorem keeps_tell {signal : Signal} (h : ∀ store : Store, π (store.hear signal) = π store) :
    Keeps π db (db.tell s signal) :=
  keeps_modifyStore h

end Keeps

/-! ## The same data -/

/-- Two databases differ at most in what concerns persisting. -/
structure SameData (db db' : Database) : Prop where
  roots : db'.roots = db.roots
  generation : db'.generation = db.generation
  words : db'.words = db.words
  length : db'.stores.length = db.stores.length
  collections : ∀ s, db'.collections? s = db.collections? s

namespace SameData

theorem refl (db : Database) : SameData db db := ⟨rfl, rfl, rfl, rfl, fun _ => rfl⟩

theorem trans {db'' : Database} (h : SameData db db') (h' : SameData db' db'') :
    SameData db db'' where
  roots := h'.roots.trans h.roots
  generation := h'.generation.trans h.generation
  words := h'.words.trans h.words
  length := h'.length.trans h.length
  collections s := (h'.collections s).trans (h.collections s)

theorem symm (h : SameData db db') : SameData db' db where
  roots := h.roots.symm
  generation := h.generation.symm
  words := h.words.symm
  length := h.length.symm
  collections s := (h.collections s).symm

theorem entries (h : SameData db db') (r : RootId) : db'.entries r = db.entries r := by
  rw [Database.entries, Database.entries, h.roots]

theorem setEntries (h : SameData db db') (r : RootId) (entries : Entries) :
    SameData (db.setEntries r entries) (db'.setEntries r entries) where
  roots := congrArg (List.set · r entries) h.roots
  generation := h.generation
  words := h.words
  length := h.length
  collections := h.collections

/-- Every store has the snapshot it had. -/
theorem snapshot (h : SameData db db') (s : StoreId) : db'.snapshot? s = db.snapshot? s := by
  rw [snapshot?, snapshot?, h.collections]
  simp only [h.entries]

end SameData

/-- Changing a store in anything but its collections keeps the data. -/
theorem sameData_modifyStore {f : Store → Store}
    (h : ∀ store, (f store).collections = store.collections) :
    SameData db (db.modifyStore s f) where
  roots := rfl
  generation := rfl
  words := rfl
  length := List.length_modify ..
  collections := (keeps_modifyStore h).bind_eq

theorem sameData_clock (time : Instant) : SameData db { db with clock := time } :=
  ⟨rfl, rfl, rfl, rfl, fun _ => rfl⟩

theorem sameData_mark : SameData db (db.mark s) := sameData_modifyStore fun _ => rfl

theorem sameData_tell {signal : Signal} : SameData db (db.tell s signal) :=
  sameData_modifyStore fun _ => rfl

theorem sameData_persist {v : Value} : SameData db (db.persist s v) := by
  unfold persist
  have hlog (host : Host) (offers : List Offer) : SameData db { db with host, offers } :=
    ⟨rfl, rfl, rfl, rfl, fun _ => rfl⟩
  dsimp only
  split
  · exact (hlog _ _).trans (sameData_modifyStore fun _ => rfl)
  · exact hlog _ _

theorem sameData_flush : SameData db (db.flush s).1 := by
  unfold flush
  have hclear : SameData db (db.modifyStore s fun store => { store with dirty := false }) :=
    sameData_modifyStore fun _ => rfl
  split
  · dsimp only
    split
    · exact hclear.trans sameData_persist
    · exact hclear
  · exact SameData.refl db

/-! ## Upkeep -/

/-- **One deed of upkeep**: a store is flushed, its worker receives a signal
other than of a mutation, or the clock is set. -/
inductive Deed : Database → Database → Prop
  | flush (db : Database) (s : StoreId) : Deed db (db.flush s).1
  | signal (db : Database) (s : StoreId) {signal : Signal}
      (h : ∀ time, signal ≠ .mutation time) : Deed db (db.signal s signal)
  | clock (db : Database) (time : Instant) : Deed db { db with clock := time }

/-- A database comes from another by upkeep, of any stores in any order. -/
abbrev Upkept : Database → Database → Prop := Relation.ReflTransGen Deed

/-- **What flushes, signals and the clock keep is kept by upkeep.** -/
theorem Upkept.induction {P : Database → Prop} (h : Upkept db db') (hdb : P db)
    (hflush : ∀ db s, P db → P (db.flush s).1)
    (htell : ∀ db s signal, P db → P (db.tell s signal))
    (hclock : ∀ (db : Database) time, P db → P { db with clock := time }) : P db' := by
  induction h with
  | refl => exact hdb
  | tail _ hdeed ih =>
    cases hdeed with
    | flush s => exact hflush _ s ih
    | signal s _ =>
      unfold signal
      split
      · exact hflush _ s (htell _ s _ ih)
      · exact htell _ s _ ih
    | clock time => exact hclock _ time ih

/-- Upkeep keeps the data. -/
theorem Upkept.sameData (h : Upkept db db') : SameData db db' :=
  h.induction (.refl db) (fun _ _ ih => ih.trans sameData_flush)
    (fun _ _ _ ih => ih.trans sameData_tell) fun _ time ih => ih.trans (sameData_clock time)

/-- And it keeps of a store what marks, counts and workers do not matter to. -/
theorem Upkept.keeps {α : Type} {π : Store → α} (h : Upkept db db')
    (hdirty : ∀ store b, π { store with dirty := b } = π store)
    (hflushes : ∀ store n, π { store with flushes := n } = π store)
    (hhear : ∀ store signal, π (store.hear signal) = π store) : Keeps π db db' :=
  h.induction (.refl π db) (fun _ _ ih => ih.trans (keeps_flush hdirty hflushes))
    (fun _ _ signal ih => ih.trans (keeps_tell fun store => hhear store signal))
    fun _ _ ih => ih.trans fun _ => rfl

theorem upkept_flush : Upkept db (db.flush s).1 := .single (.flush db s)

/-- **A touch is a mark and then upkeep.** -/
theorem upkept_touch : Upkept (db.mark s) (db.touch s) := by
  unfold touch
  dsimp only
  split
  · exact upkept_flush
  · exact .refl

theorem sameData_touch : SameData db (db.touch s) := sameData_mark.trans upkept_touch.sameData

theorem SameData.touch (h : SameData db db') (s : StoreId) :
    SameData (db.touch s) (db'.touch s) :=
  (sameData_touch.symm.trans h).trans sameData_touch

/-- A signal to the workers of stores, one after the other. -/
theorem upkept_foldl_signal {signal : Signal} (h : ∀ time, signal ≠ .mutation time)
    (ss : List StoreId) (db : Database) :
    Upkept db (ss.foldl (fun db s => db.signal s signal) db) := by
  induction ss generalizing db with
  | nil => exact .refl
  | cons s rest ih => exact .head (.signal db s h) (ih (db.signal s signal))

theorem upkept_elapse (time : Instant) : Upkept db (db.elapse time) :=
  (upkept_foldl_signal (by simp) (db.due time) db).tail (.clock _ time)

end Database

namespace Session

variable {x : Session} {s : StoreId}

theorem upkept_release (x : Session) : Database.Upkept x.database x.release.database :=
  Database.upkept_foldl_signal (by simp) _ _

theorem upkept_awaitTimer : Database.Upkept x.database (x.awaitTimer s) := by
  unfold awaitTimer
  split
  · exact Database.upkept_elapse _
  · exact .refl

@[simp] theorem release_store (x : Session) : x.release.store = x.store := rfl

end Session

end DocumentStore
