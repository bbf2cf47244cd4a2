import DocumentStore.View

/-!
# Operations of a store

A store is made on a host, initialized from the snapshot the host holds,
and then creates, finds and removes collections by name. Initializing
takes over whatever is a collection in the snapshot, and in it whatever is
a document (`Entries.load`), and passes over the rest; only a snapshot
that is no object at all is refused. A store that is initialized stays as
it is.
-/

namespace DocumentStore.Database

variable (db : Database) (s : StoreId)

/-- Adds a store, not initialized, which bears the number it is returned
with. -/
def addStore (config : Config) : StoreId × Database :=
  (db.stores.length, { db with stores := db.stores ++ [.new config] })

/-- Takes over the collections of a snapshot beside those there, and returns
them by name. -/
def loadCollections (collections : Bindings RootId) (db : Database) :
    List (String × Value) → Bindings RootId × Database
  | [] => (collections, db)
  | (name, .object members) :: rest =>
    let (entries, generation) := Entries.load db.generation members
    let (root, db) := { db with generation }.addRoot entries
    loadCollections (collections.insert name root) db rest
  | _ :: rest => loadCollections collections db rest

/-- The collections of what a host holds, if it is a snapshot. -/
def loadSnapshot : Option Value → Except StoreError (Bindings RootId × Database)
  | none => .ok ([], db)
  | some .null => .ok ([], db)
  | some (.object members) => .ok (loadCollections [] db members)
  | some v => .error (.invalidSnapshot v.kindName)

/-- Initializes a store from its host. -/
def init : Except StoreError Database :=
  if (db.collections? s).isSome then .ok db
  else do
    let (collections, db) ← db.loadSnapshot (← db.host.load?)
    return db.modifyStore s fun store => { store with collections := some collections }

/-- Adds a store and initializes it. -/
def openStore (config : Config) : Except StoreError (StoreId × Database) := do
  let (s, db) := db.addStore config
  return (s, ← db.init s)

/-- Makes an empty collection, and returns the view of it. -/
def createCollection (name : String) : Except StoreError (View × Database) :=
  match db.collections? s with
  | none => .error .notInitialized
  | some collections =>
    if collections.contains name then .error (.collectionExists name)
    else
      let (root, db) := db.addRoot []
      let db := db.modifyStore s fun store =>
        { store with collections := some (collections.insert name root) }
      .ok (.whole s root name, db.touch s)

/-- Takes a collection's name away, and says whether there was one. -/
def removeCollection (name : String) : Except StoreError (Bool × Database) :=
  match db.collections? s with
  | none => .error .notInitialized
  | some collections =>
    let db := db.modifyStore s fun store =>
      { store with collections := some (collections.erase name) }
    .ok (collections.contains name, db.touch s)

/-- The view of a collection, if there is one of the name. -/
def collection? (name : String) : Except StoreError (Option View) :=
  match db.collections? s with
  | none => .error .notInitialized
  | some collections => .ok ((collections.get? name).map fun root => .whole s root name)

/-- The names of the collections, in order of creation. -/
def collectionNames : Except StoreError (List String) :=
  match db.collections? s with
  | none => .error .notInitialized
  | some collections => .ok collections.keys

end DocumentStore.Database
