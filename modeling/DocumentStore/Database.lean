import DocumentStore.Document
import DocumentStore.Host
import DocumentStore.Worker

/-!
# The database — stores, their collections and their host

Everything that operations change is one value: the host, the stores that
were made on it, the data of every collection, the next generation and the
random words still to be drawn. Stores and collections are known by their
numbers. A store binds names to collections once it is initialized; a
collection whose name was taken away stays, for the views that hold its
number, but no snapshot shows it (`Database.snapshot?`).

A mutation marks its store dirty (`Database.touch`), and a dirty store has
something to persist (`Database.flush`). The mark is cleared before the
host is asked, whatever the host answers. What was offered to the host is
logged with the answer.

A debounced store is flushed by its worker, which hears of every mutation and
does what a turn of its loop says on each signal (`Database.signal`). Time
stands still while an operation is performed. When it passes
(`Database.elapse`), the workers whose deadlines it reaches hear of that, in
the order of the deadlines.
-/

namespace DocumentStore

/-- The number of a store. -/
abbrev StoreId := Nat

/-- The number of a collection's data. -/
abbrev RootId := Nat

/-- A store. -/
structure Store where
  config : Config
  /-- The collections by name, in order of creation, once initialized. -/
  collections : Option (Bindings RootId)
  /-- Whether there are mutations the host was not yet offered. -/
  dirty : Bool
  /-- How many snapshots the host accepted. -/
  flushes : Nat
  /-- The worker, which a debounced store has and no other. -/
  worker : Option Worker
  delay_worker : worker.map Worker.delay = config.writeBack.delay?

/-- An attempt to persist, as the log has it. -/
structure Offer where
  store : StoreId
  snapshot : Value
  accepted : Bool

/-- A store with its host, and everything else that operations change. -/
structure Database where
  host : Host
  /-- Every attempt to persist so far, oldest first. -/
  offers : List Offer
  stores : List Store
  roots : List Entries
  /-- The generation of the next entry. -/
  generation : Nat
  /-- Random words not yet drawn. -/
  words : List UInt32
  /-- The time. -/
  clock : Instant

namespace Store

/-- A store before its initialization. -/
def new (config : Config) : Store where
  config
  collections := none
  dirty := false
  flushes := 0
  worker := config.writeBack.delay?.map Worker.start
  delay_worker := by cases config.writeBack.delay? <;> rfl

/-- Whether the store has been initialized. -/
def isInitialized (s : Store) : Bool := s.collections.isSome

/-- The store after its worker received a signal. -/
def hear (s : Store) (signal : Signal) : Store :=
  { s with
    worker := s.worker.map fun w => (w.receive signal).1
    delay_worker := by
      rw [← s.delay_worker]
      cases s.worker <;> rfl }

/-- The diagnostic text of a store. -/
def inspect (s : Store) : String :=
  "Store \x7b initialized: " ++ (if s.isInitialized then "true" else "false") ++ ", write_back: "
    ++ s.config.writeBack.inspect ++ ", dirty: " ++ (if s.dirty then "true" else "false") ++ " \x7d"

end Store

namespace Database

variable (db : Database) (s : StoreId) (r : RootId)

/-- A host without stores. -/
def new (host : Host) (words : List UInt32) : Database := ⟨host, [], [], [], 1, words, 0⟩

/-! ## Parts -/

/-- The data of a collection. -/
def entries : Entries := db.roots[r]?.getD []

/-- Replaces the data of a collection. -/
def setEntries (entries : Entries) : Database := { db with roots := db.roots.set r entries }

/-- Adds a collection's data, which bears the number it is returned with. -/
def addRoot (entries : Entries) : RootId × Database :=
  (db.roots.length, { db with roots := db.roots ++ [entries] })

/-- The collections of a store, if it is initialized. -/
def collections? : Option (Bindings RootId) := (db.stores[s]?).bind Store.collections

/-- Changes a store. -/
def modifyStore (f : Store → Store) : Database := { db with stores := db.stores.modify s f }

/-- Whether a store is dirty. -/
def isDirty : Bool := (db.stores[s]?).any Store.dirty

/-- The mode of a store. -/
def mode? : Option WriteBackMode := (db.stores[s]?).map fun store => store.config.writeBack

/-- The worker of a store, if it has one. -/
def worker? : Option Worker := (db.stores[s]?).bind Store.worker

/-- Where the worker of a store is. -/
def phase? : Option Phase := (db.worker? s).map Worker.phase

/-- The deadline of a store's worker, if it is armed. -/
def deadline? : Option Instant := (db.phase? s).bind Phase.deadline?

/-- Stores a document under an id and a generation of its own. -/
def putDocument (id : String) (fields : Document) : Database :=
  { db.setEntries r ((db.entries r).insert id ⟨db.generation, fields⟩) with
    generation := db.generation + 1 }

/-! ## Persisting -/

/-- The value a store is persisted as, once it is initialized. -/
def snapshot? : Option Value :=
  (db.collections? s).map fun collections =>
    .object (collections.map fun (name, root) => (name, (db.entries root).toValue))

/-- Offers the host a snapshot, and counts it if it is accepted. -/
def persist (v : Value) : Database :=
  let (host, accepted) := db.host.persist v
  let db := { db with host, offers := db.offers ++ [⟨s, v, accepted⟩] }
  if accepted then db.modifyStore s fun store => { store with flushes := store.flushes + 1 } else db

/-- Persists a dirty store, and says whether it tried. -/
def flush : Database × Bool :=
  if db.isDirty s then
    let db := db.modifyStore s fun store => { store with dirty := false }
    match db.snapshot? s with
    | some v => (db.persist s v, true)
    | none => (db, false)
  else (db, false)

/-- Marks a store dirty, and lets its worker know, which flushes nothing on
that. -/
def mark : Database :=
  db.modifyStore s fun store => { store with dirty := true }.hear (.mutation db.clock)

/-- Records a mutation of a store; in the immediate mode it is persisted
at once. -/
def touch : Database :=
  let db := db.mark s
  if db.mode? s = some .immediate then (db.flush s).1 else db

/-! ## Workers -/

/-- Lets the worker of a store receive a signal, whatever it is to do then. -/
def tell (signal : Signal) : Database := db.modifyStore s fun store => store.hear signal

/-- Whether the worker of a store flushes it on a signal. -/
def flushesOn (signal : Signal) : Bool := (db.worker? s).any fun w => (w.receive signal).2

/-- **Lets the worker of a store turn once**: it receives a signal, and flushes
the store if it does that on the signal. -/
def signal (signal : Signal) : Database :=
  if db.flushesOn s signal then ((db.tell s signal).flush s).1 else db.tell s signal

/-- The deadline of a store's worker with the store, if the worker is armed. -/
def pending? : Option (Instant × StoreId) :=
  (db.deadline? s).map fun deadline => (deadline, s)

/-- Puts a store with its deadline in the order of deadlines. -/
def insertDue (entry : Instant × StoreId) : List (Instant × StoreId) → List (Instant × StoreId)
  | [] => [entry]
  | other :: rest =>
    if entry.1 ≤ other.1 then entry :: other :: rest else other :: insertDue entry rest

/-- The stores with the deadlines of their workers, in the order of deadlines. -/
def deadlines : List (Instant × StoreId) :=
  ((List.range db.stores.length).filterMap db.pending?).foldr insertDue []

/-- The stores whose deadlines are reached at a time, in the order of
deadlines. -/
def due (time : Instant) : List StoreId :=
  (db.deadlines.filter fun (deadline, _) => deadline ≤ time).map Prod.snd

/-- Lets time pass, until the clock shows a time. -/
def elapse (time : Instant) : Database :=
  { (db.due time).foldl (fun db s => db.signal s .timeout) db with clock := time }

/-- When a store will have been flushed by its worker: at the deadline, or now
if that has passed. A clean store has nothing to wait for. -/
def awaited? : Option Instant :=
  if db.isDirty s then (db.deadline? s).map (max db.clock) else none

end Database

end DocumentStore
