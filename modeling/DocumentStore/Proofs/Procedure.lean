import DocumentStore.Session

/-!
# Procedures — operations by the order of their effects

An operation that is refused answers with an error, and `Session.step` then
keeps the session it had. Here the same operations are procedures that
change the session in place, one effect after the other: a check, a look at
the host, a draw of random words, a change of the data, a touch. A procedure
that refuses stops where it stands and keeps every effect it has had so far
(`Procedure`).

Both come to the same, answers and sessions alike (`perform_onStore`,
`perform_onView`, `perform_onHandle`): in each procedure all that may
refuse comes before the first effect.
-/

namespace DocumentStore

/-- A program that changes a session in place and may refuse. What it did
before it refuses, it did. -/
abbrev Procedure := ExceptT StoreError (StateM Session)

namespace Procedure

/-- What a procedure answers from a session on, and what it leaves of it. -/
def perform {α : Type} (p : Procedure α) (x : Session) : Except StoreError α × Session :=
  ExceptT.run p x

/-- The database as it is now. -/
def database : Procedure Database := return (← get).database

/-- Changes the database. -/
def write (f : Database → Database) : Procedure Unit :=
  modify fun x => { x with database := f x.database }

/-- Goes on with what was answered, and refuses with what was refused. -/
def expect {α : Type} : Except StoreError α → Procedure α
  | .ok a => pure a
  | .error e => throw e

/-- Keeps a view under a name. -/
def keepView (bind : String) (v : View) : Procedure Reply := modifyGet (·.bindView bind v)

/-- Keeps a handle under a name. -/
def keepHandle (bind : String) (h : Handle) : Procedure Reply := modifyGet (·.bindHandle bind h)

/-! ## Stores -/

/-- Takes over the collections of a snapshot, one after the other. -/
def takeOver (names : Bindings RootId) : List (String × Value) → Procedure (Bindings RootId)
  | [] => return names
  | (name, .object members) :: rest => do
    let (entries, generation) := Entries.load (← database).generation members
    write fun db => { db with generation }
    let root := (← database).roots.length
    write fun db => (db.addRoot entries).2
    takeOver (names.insert name root) rest
  | _ :: rest => takeOver names rest

/-- The names of what a host holds, whose data is taken over. -/
def takeOverSnapshot : Option Value → Procedure (Bindings RootId)
  | none => return []
  | some .null => return []
  | some (.object members) => takeOver [] members
  | some v => throw (.invalidSnapshot v.kindName)

/-- Initializes a store: asks the host, takes over the data, and gives the
store its names last. -/
def init (s : StoreId) : Procedure Unit := do
  if ((← database).collections? s).isSome then return
  let snapshot ← expect (← database).host.load?
  let names ← takeOverSnapshot snapshot
  write fun db => db.modifyStore s fun store => { store with collections := some names }

/-- The names of a store, which must be initialized. -/
def names (s : StoreId) : Procedure (Bindings RootId) := do
  match (← database).collections? s with
  | some names => return names
  | none => throw .notInitialized

/-- Gives the name to new data, and touches the store. -/
def createCollection (s : StoreId) (name bind : String) : Procedure Reply := do
  let names ← names s
  if names.contains name then throw (.collectionExists name)
  let root := (← database).roots.length
  write fun db => (db.addRoot []).2
  write fun db => db.modifyStore s fun store =>
    { store with collections := some (names.insert name root) }
  write fun db => db.touch s
  keepView bind (.whole s root name)

/-- Takes the name away, and touches the store. -/
def removeCollection (s : StoreId) (name : String) : Procedure Reply := do
  let names ← names s
  write fun db => db.modifyStore s fun store =>
    { store with collections := some (names.erase name) }
  write fun db => db.touch s
  return .flag (names.contains name)

/-- Keeps the view of a collection, if there is one of the name. -/
def collection (s : StoreId) (name bind : String) : Procedure Reply := do
  match (← names s).get? name with
  | some root => keepView bind (.whole s root name)
  | none => return .view none

/-! ## Views and handles -/

/-- Draws an id that is free in a collection, and uses up the words. -/
def drawId (r : RootId) : Procedure String := do
  let db ← database
  match Identifier.draw? (fun id => (db.entries r).contains id) db.words with
  | some (id, words) =>
    write fun db => { db with words }
    return id
  | none => throw .exhausted

/-- Stores a document under the id it asks for or one that is drawn, and
touches the store. -/
def add (v : View) : Value → Procedure Reply
  | .object members => do
    let fields := Bindings.erase members idField
    let id ← match Document.explicitId? members with
      | some id => do
        if ((← database).entries v.root).contains id then throw (.duplicateId id)
        pure id
      | none => drawId v.root
    write fun db => db.putDocument v.root id fields
    write fun db => db.touch v.store
    return .id id
  | _ => throw .invalidDocument

/-- Patches what the view sees, and touches the store. -/
def updateView (v : View) (p : Patch) : Procedure Reply := do
  let entries := (← database).entries v.root
  let (n, updated) := match v.scope with
    | none => (entries.length, entries.mapValues (Entry.patch p))
    | some scope => Entries.patchLive p entries scope
  write fun db => db.setEntries v.root updated
  write fun db => db.touch v.store
  return .number n

/-- Removes what the view sees, and touches the store. -/
def removeView (v : View) : Procedure Reply := do
  let entries := (← database).entries v.root
  let kept := entries.filter fun (id, e) => !v.admits id e
  write fun db => db.setEntries v.root kept
  write fun db => db.touch v.store
  return .number (entries.length - kept.length)

/-- Patches the document of a handle, and touches the store. -/
def updateHandle (h : Handle) (p : Patch) : Procedure Reply := do
  match h.entry? (← database) with
  | some e =>
    write fun db => db.setEntries h.root ((db.entries h.root).insert h.id (e.patch p))
    write fun db => db.touch h.store
    return .done
  | none => throw (.documentNotFound h.id)

/-- Removes the document of a handle, and touches the store if there was
one. -/
def removeHandle (h : Handle) : Procedure Reply := do
  let present := h.isPresent (← database)
  if present then
    write fun db => db.setEntries h.root ((db.entries h.root).erase h.id)
    write fun db => db.touch h.store
  return .flag present

/-- An operation on a store, effect by effect. -/
def onStore (s : StoreId) : StoreAction → Procedure Reply
  | .init => do
    init s
    return .done
  | .isInitialized => return .flag ((← database).collections? s).isSome
  | .createCollection name bind => createCollection s name bind
  | .collection name bind => collection s name bind
  | .removeCollection name => removeCollection s name
  | .collectionNames => return .names (Bindings.keys (← names s))
  | .snapshot => return .value ((← database).snapshot? s)
  | .flush => do
    let (_, tried) := (← database).flush s
    write fun db => (db.flush s).1
    return .flag tried
  | .settle => do
    modify fun x => { x with database := x.awaitTimer s }
    let (_, tried) := (← database).flush s
    write fun db => (db.flush s).1
    return .flag tried
  | .config => return .value (((← database).stores[s]?).map fun store => store.config.toValue)
  | .inspect => return .text ((((← database).stores[s]?).map Store.inspect).getD "")

/-- An operation on a view, effect by effect. -/
def onView (v : View) : ViewAction → Procedure Reply
  | .filter f bind => do keepView bind (v.filter (← database) f)
  | .filterValue value bind => do
    let f ← expect (Filter.ofValue? value)
    keepView bind (v.filter (← database) f)
  | .limit n bind => keepView bind (v.limit n)
  | .skip n bind => keepView bind (v.skip n)
  | .orderBy field direction bind => keepView bind (v.orderBy field direction)
  | .handle id bind => keepHandle bind (v.handle id)
  | .info => return .view (some (v.info (← database)))
  | .inspect => return .text v.inspect
  | .count => return .number (v.count (← database))
  | .get => return .values (v.get (← database))
  | .add document => add v document
  | .update p => updateView v p
  | .updateValue value => do
    let p ← expect (Patch.ofValue? value)
    updateView v p
  | .remove => removeView v

/-- An operation on a handle, effect by effect. -/
def onHandle (h : Handle) : HandleAction → Procedure Reply
  | .get => return .value (h.get? (← database))
  | .isPresent => return .flag (h.isPresent (← database))
  | .inspect => return .text h.inspect
  | .update p => updateHandle h p
  | .updateValue value => do
    let p ← expect (Patch.ofValue? value)
    updateHandle h p
  | .remove => removeHandle h

/-- What is left of an answer that takes effect as a whole or not at all. -/
def wholly {α : Type} (x : Session) :
    Except StoreError (α × Session) → Except StoreError α × Session
  | .ok (a, x') => (.ok a, x')
  | .error e => (.error e, x)

/-! ## Effects come last -/

section Effects

variable {α β : Type} (x : Session) (s : StoreId) (v : View) (h : Handle)

/-- Procedures one after the other: the second takes place if the first does
not refuse. -/
@[simp] theorem perform_bind (p : Procedure α) (next : α → Procedure β) :
    perform (p >>= next) x = match p.perform x with
      | (.ok a, x') => (next a).perform x'
      | (.error e, x') => (.error e, x') := by
  unfold perform ExceptT.run
  simp only [bind, ExceptT.bind, ExceptT.mk, StateT.bind, ExceptT.bindCont]
  cases p x with
  | mk answer x' => cases answer <;> rfl

@[simp] theorem perform_map (f : α → β) (p : Procedure α) :
    perform (f <$> p) x = ((p.perform x).1.map f, (p.perform x).2) := by
  rw [← bind_pure_comp, perform_bind]
  cases p.perform x with
  | mk answer x' => cases answer <;> rfl

@[simp] theorem perform_pure (a : α) : perform (pure a) x = (.ok a, x) := rfl

@[simp] theorem perform_throw (e : StoreError) :
    perform (throw e : Procedure α) x = (.error e, x) := rfl

@[simp] theorem perform_database : database.perform x = (.ok x.database, x) := rfl

@[simp] theorem perform_write (f : Database → Database) :
    (write f).perform x = (.ok (), { x with database := f x.database }) := rfl

@[simp] theorem perform_expect (answer : Except StoreError α) :
    (expect answer).perform x = (answer, x) := by
  cases answer <;> rfl

@[simp] theorem perform_keepView (bind : String) :
    (keepView bind v).perform x = (.ok (x.bindView bind v).1, (x.bindView bind v).2) := rfl

@[simp] theorem wholly_ok (done : α × Session) : wholly x (.ok done) = (.ok done.1, done.2) := rfl

@[simp] theorem wholly_error (e : StoreError) :
    wholly x (.error e : Except StoreError (α × Session)) = (.error e, x) := rfl

@[simp] theorem ok_bind (a : α) (next : α → Except StoreError β) : .ok a >>= next = next a := rfl

@[simp] theorem error_bind (e : StoreError) (next : α → Except StoreError β) :
    .error e >>= next = .error e := rfl

@[simp] theorem map_ok (f : α → β) (a : α) : (.ok a : Except StoreError α).map f = .ok (f a) := rfl

@[simp] theorem map_error (f : α → β) (e : StoreError) :
    (.error e : Except StoreError α).map f = .error e := rfl

@[simp] theorem pure_eq_ok (a : α) : (pure a : Except StoreError α) = .ok a := rfl

/-- Taking over collections one after the other. -/
theorem perform_takeOver (names : Bindings RootId) (members : List (String × Value)) :
    (takeOver names members).perform x =
      (.ok (Database.loadCollections names x.database members).1,
        { x with database := (Database.loadCollections names x.database members).2 }) := by
  induction members generalizing names x with
  | nil => rfl
  | cons member rest ih =>
    obtain ⟨name, value⟩ := member
    cases value with
    | object members => exact ih _ _
    | _ => exact ih _ _

/-- A snapshot that is none is refused before anything is taken over. -/
theorem perform_takeOverSnapshot (snapshot : Option Value) : (takeOverSnapshot snapshot).perform x =
    wholly x (do
      let (names, database) ← x.database.loadSnapshot snapshot
      return (names, { x with database })) := by
  cases snapshot with
  | none => rfl
  | some value =>
    cases value with
    | object members => exact perform_takeOver x [] members
    | _ => rfl

/-- **Initializing** has its effects when nothing can refuse any more. -/
theorem perform_init : (init s).perform x =
    wholly x (return ((), { x with database := ← x.database.init s })) := by
  unfold init Database.init
  cases hs : (x.database.collections? s).isSome with
  | true => simp [hs]
  | false =>
    cases hload : x.database.host.load? with
    | error e => simp [hs, hload]
    | ok snapshot =>
      cases hsnapshot : x.database.loadSnapshot snapshot with
      | error e => simp [hs, hload, hsnapshot, perform_takeOverSnapshot]
      | ok loaded => simp [hs, hload, hsnapshot, perform_takeOverSnapshot]

theorem perform_createCollection (name bind : String) : (createCollection s name bind).perform x =
    wholly x (x.onStore s (.createCollection name bind)) := by
  unfold createCollection names Session.onStore Database.createCollection
  cases hs : x.database.collections? s with
  | none => simp [hs]
  | some names => by_cases hname : names.contains name <;> simp [hs, hname, Database.addRoot]

theorem perform_collection (name bind : String) : (collection s name bind).perform x =
    wholly x (x.onStore s (.collection name bind)) := by
  unfold collection names Session.onStore Database.collection?
  cases hs : x.database.collections? s with
  | none => simp [hs]
  | some names => cases hroot : names.get? name <;> simp [hs, hroot]

/-- **An operation on a store** has its effects when nothing can refuse any
more. -/
theorem perform_onStore (a : StoreAction) :
    (onStore s a).perform x = wholly x (x.onStore s a) := by
  cases a with
  | init =>
    cases hinit : x.database.init s <;> simp [onStore, Session.onStore, perform_init, hinit]
  | createCollection name bind => exact perform_createCollection x s name bind
  | collection name bind => exact perform_collection x s name bind
  | removeCollection name =>
    cases hs : x.database.collections? s <;>
      simp [onStore, removeCollection, names, Session.onStore, Database.removeCollection, hs]
  | collectionNames =>
    cases hs : x.database.collections? s <;>
      simp [onStore, names, Session.onStore, Database.collectionNames, hs]
  | isInitialized => rfl
  | snapshot => rfl
  | flush => rfl
  | settle => rfl
  | config => rfl
  | inspect => rfl

theorem perform_add (document : Value) : (add v document).perform x =
    wholly x (x.onView v (.add document)) := by
  cases document with
  | object members =>
    cases hexplicit : Document.explicitId? members with
    | some id =>
      by_cases htaken : (x.database.entries v.root).contains id <;>
        simp [add, Session.onView, View.add, hexplicit, htaken]
    | none =>
      cases hdraw : Identifier.draw? (fun id => (x.database.entries v.root).contains id)
          x.database.words <;>
        simp [add, drawId, Session.onView, View.add, hexplicit, hdraw]
  | _ => rfl

theorem perform_updateView (p : Patch) :
    (updateView v p).perform x = wholly x (x.onView v (.update p)) := rfl

/-- **And so has one on a view.** -/
theorem perform_onView (a : ViewAction) :
    (onView v a).perform x = wholly x (x.onView v a) := by
  cases a with
  | add document => exact perform_add x v document
  | updateValue value =>
    cases hp : Patch.ofValue? value <;>
      simp [onView, Session.onView, View.updateValue, perform_updateView, hp]
  | filterValue value bind =>
    cases hf : Filter.ofValue? value <;> simp [onView, Session.onView, View.filterValue, hf]
  | _ => rfl

theorem perform_updateHandle (p : Patch) :
    (updateHandle h p).perform x = wholly x (x.onHandle h (.update p)) := by
  cases he : h.entry? x.database <;>
    simp [updateHandle, Session.onHandle, Handle.update, he]

/-- **And one on a handle.** -/
theorem perform_onHandle (a : HandleAction) :
    (onHandle h a).perform x = wholly x (x.onHandle h a) := by
  cases a with
  | update p => exact perform_updateHandle x h p
  | updateValue value =>
    cases hp : Patch.ofValue? value <;>
      simp [onHandle, Session.onHandle, Handle.updateValue, perform_updateHandle, hp]
  | remove =>
    by_cases hp : h.isPresent x.database <;>
      simp [onHandle, removeHandle, Session.onHandle, Handle.remove, hp]
  | _ => rfl

end Effects

end Procedure

namespace Session

/-- The procedure of an operation on a store, a view or a handle that is
there. -/
def procedure? (x : Session) : Action → Option (Procedure Reply)
  | .onStore a => (x.store).map fun s => Procedure.onStore s a
  | .onView view a => (x.views.get? view).map fun v => Procedure.onView v a
  | .onHandle handle a => (x.handles.get? handle).map fun h => Procedure.onHandle h a
  | _ => none

end Session

end DocumentStore
