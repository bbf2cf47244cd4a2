import DocumentStore.Store

/-!
# Sessions — runs of operations

A session is a database in use: the store that operations go to, and the
views and handles its user holds, by name. An action is one operation on
them (`Action`); it has a reply or is refused (`Session.step`), and a list
of them is a run (`Session.run`). A refused action changes nothing, with
two exceptions: a store that cannot be opened again is given up, and a
host that cannot replace its snapshot may keep what it wrote beside it.

Views and handles keep the store they came from alive, also when the
session has opened another one on the same host. A store that nothing
holds any more is given up, and its worker hears of it
(`Session.release`). Time passes only when an operation waits, for a while or
for the worker of the store.
-/

namespace DocumentStore

/-- A database in use. -/
structure Session where
  database : Database
  store : Option StoreId
  views : Bindings View
  handles : Bindings Handle

/-! ## Operations and what they answer -/

/-- An operation on the store. A view that it makes is kept under the name
`bind`. -/
inductive StoreAction where
  | init
  | isInitialized
  | createCollection (name bind : String)
  | collection (name bind : String)
  | removeCollection (name : String)
  | collectionNames
  | snapshot
  | flush
  /-- Waits until the worker of the store has flushed it, if there is
  something to flush, and flushes what is left then. -/
  | settle
  | config
  | inspect

/-- An operation on a view. A view or handle that it makes is kept under
the name `bind`. -/
inductive ViewAction where
  | filter (f : Filter) (bind : String)
  | filterValue (value : Value) (bind : String)
  | limit (n : Nat) (bind : String)
  | skip (n : Nat) (bind : String)
  | orderBy (field : String) (direction : Direction) (bind : String)
  | handle (id bind : String)
  | info
  | inspect
  | count
  | get
  | add (document : Value)
  | update (p : Patch)
  | updateValue (value : Value)
  | remove

/-- An operation on a handle. -/
inductive HandleAction where
  | get
  | isPresent
  | inspect
  | update (p : Patch)
  | updateValue (value : Value)
  | remove

/-- An operation on the host, past the store. -/
inductive HostAction where
  | persist (value : Value)
  | setFailing (failing : Bool)

/-- An operation. Views and handles go by their names. -/
inductive Action where
  | onStore (a : StoreAction)
  | onView (view : String) (a : ViewAction)
  | onHandle (handle : String) (a : HandleAction)
  | onHost (a : HostAction)
  /-- Gives up the store and all views and handles. -/
  | drop
  /-- Gives up the store and opens another on the same host. -/
  | reopen (config : Config)
  /-- Lets a number of nanoseconds pass. -/
  | wait (nanos : Nat)

/-- What an operation answers. -/
inductive Reply where
  | done
  | flag (b : Bool)
  | number (n : Nat)
  | text (s : String)
  | names (names : List String)
  /-- A value that may be missing. -/
  | value (v : Option Value)
  | values (vs : List Value)
  /-- A view that may be missing. -/
  | view (info : Option ViewInfo)
  /-- The id of a document added. -/
  | id (id : String)
  /-- The id of a handle, and whether there is such a document. -/
  | handle (id : String) (present : Bool)

/-- Why an operation is refused. -/
inductive Refusal where
  | store (e : StoreError)
  | noStore
  | noView
  | noHandle

namespace Session

variable (x : Session)

/-- A session with one store, not initialized. -/
def start (host : Host) (config : Config) (words : List UInt32) : Session :=
  let (s, database) := (Database.new host words).addStore config
  ⟨database, some s, [], []⟩

/-- Keeps a view under a name, and tells about it. -/
def bindView (name : String) (v : View) : Reply × Session :=
  (.view (some (v.info x.database)), { x with views := x.views.insert name v })

/-- Keeps a handle under a name, and tells about it. -/
def bindHandle (name : String) (h : Handle) : Reply × Session :=
  (.handle h.id (h.isPresent x.database), { x with handles := x.handles.insert name h })

/-! ## Stores given up -/

/-- Whether something of the session holds a store. -/
def holds (s : StoreId) : Bool :=
  x.store == some s || x.views.any (fun (_, v) => v.store == s)
    || x.handles.any fun (_, h) => h.store == s

/-- Gives up the stores that nothing holds, oldest first, and lets their
workers know. -/
def release : Session :=
  let given := (List.range x.database.stores.length).filter fun s => !x.holds s
  { x with database := given.foldl (fun db s => db.signal s .disconnect) x.database }

/-- Lets time pass until the worker of a dirty store flushes it. -/
def awaitTimer (s : StoreId) : Database :=
  match x.database.awaited? s with
  | some time => x.database.elapse time
  | none => x.database

/-! ## Performing an operation -/

/-- Performs an operation on a store. -/
def onStore (s : StoreId) : StoreAction → Except StoreError (Reply × Session)
  | .init => do
    return (.done, { x with database := ← x.database.init s })
  | .isInitialized => return (.flag (x.database.collections? s).isSome, x)
  | .createCollection name bind => do
    let (v, database) ← x.database.createCollection s name
    return { x with database }.bindView bind v
  | .collection name bind => do
    match ← x.database.collection? s name with
    | some v => return x.bindView bind v
    | none => return (.view none, x)
  | .removeCollection name => do
    let (existed, database) ← x.database.removeCollection s name
    return (.flag existed, { x with database })
  | .collectionNames => return (.names (← x.database.collectionNames s), x)
  | .snapshot => return (.value (x.database.snapshot? s), x)
  | .flush =>
    let (database, tried) := x.database.flush s
    return (.flag tried, { x with database })
  | .settle =>
    let (database, tried) := (x.awaitTimer s).flush s
    return (.flag tried, { x with database })
  | .config => return (.value ((x.database.stores[s]?).map fun store => store.config.toValue), x)
  | .inspect => return (.text (((x.database.stores[s]?).map Store.inspect).getD ""), x)

/-- Performs an operation on a view. -/
def onView (v : View) : ViewAction → Except StoreError (Reply × Session)
  | .filter f bind => return x.bindView bind (v.filter x.database f)
  | .filterValue value bind => return x.bindView bind (← v.filterValue x.database value)
  | .limit n bind => return x.bindView bind (v.limit n)
  | .skip n bind => return x.bindView bind (v.skip n)
  | .orderBy field direction bind => return x.bindView bind (v.orderBy field direction)
  | .handle id bind => return x.bindHandle bind (v.handle id)
  | .info => return (.view (some (v.info x.database)), x)
  | .inspect => return (.text v.inspect, x)
  | .count => return (.number (v.count x.database), x)
  | .get => return (.values (v.get x.database), x)
  | .add document => do
    let (id, database) ← v.add x.database document
    return (.id id, { x with database })
  | .update p =>
    let (n, database) := v.update x.database p
    return (.number n, { x with database })
  | .updateValue value => do
    let (n, database) ← v.updateValue x.database value
    return (.number n, { x with database })
  | .remove =>
    let (n, database) := v.remove x.database
    return (.number n, { x with database })

/-- Performs an operation on a handle. -/
def onHandle (h : Handle) : HandleAction → Except StoreError (Reply × Session)
  | .get => return (.value (h.get? x.database), x)
  | .isPresent => return (.flag (h.isPresent x.database), x)
  | .inspect => return (.text h.inspect, x)
  | .update p => return (.done, { x with database := ← h.update x.database p })
  | .updateValue value => return (.done, { x with database := ← h.updateValue x.database value })
  | .remove =>
    let (existed, database) := h.remove x.database
    return (.flag existed, { x with database })

/-- Performs an operation on the host. -/
def onHost : HostAction → Session × Except StoreError Reply
  | .persist value =>
    let (host, accepted) := x.database.host.persist value
    ({ x with database := { x.database with host } }, if accepted then .ok .done else .error .io)
  | .setFailing failing =>
    let host := x.database.host.setFailing failing
    ({ x with database := { x.database with host } }, .ok .done)

/-- Opens another store on the same host, if the host's snapshot can be
loaded; the session has no store otherwise. -/
def reopen (config : Config) : Session × Except StoreError Reply :=
  let x := { x with store := none }.release
  match x.database.openStore config with
  | .ok (s, database) => ({ x with database, store := some s }, .ok .done)
  | .error e => (x, .error e)

/-! ## Steps and runs -/

/-- The session after an operation that was performed, or as it was. -/
def conclude : Except StoreError (Reply × Session) → Session × Except Refusal Reply
  | .ok (reply, x') => (x'.release, .ok reply)
  | .error e => (x, .error (.store e))

/-- **One step of a run.** -/
def step : Action → Session × Except Refusal Reply
  | .onStore a =>
    match x.store with
    | some s => x.conclude (x.onStore s a)
    | none => (x, .error .noStore)
  | .onView view a =>
    match x.views.get? view with
    | some v => x.conclude (x.onView v a)
    | none => (x, .error .noView)
  | .onHandle handle a =>
    match x.handles.get? handle with
    | some h => x.conclude (x.onHandle h a)
    | none => (x, .error .noHandle)
  | .onHost a => let (x', answer) := x.onHost a; (x', answer.mapError .store)
  | .drop => ({ x with store := none, views := [], handles := [] }.release, .ok .done)
  | .reopen config => let (x', answer) := x.reopen config; (x', answer.mapError .store)
  | .wait nanos => ({ x with database := x.database.elapse (x.database.clock + nanos) }, .ok .done)

/-- A run: the session after a list of actions, and what each answered. -/
def run : Session → List Action → Session × List (Except Refusal Reply)
  | x, [] => (x, [])
  | x, a :: rest =>
    let (x', answer) := x.step a
    let (x'', answers) := run x' rest
    (x'', answer :: answers)

end Session

end DocumentStore
