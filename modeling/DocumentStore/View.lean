import DocumentStore.Database
import DocumentStore.Patch
import DocumentStore.Identifier
import DocumentStore.Query.Options

/-!
# Views and handles

A view is a way to look at one collection: which of its documents count
(`View.admits`), and how they are ordered and paged when read. A view is
a plain value. Deriving a view from it leaves it as it is, and every
mutation through it, however it was derived, lands in the collection.

A filter decides once. The view it gives holds the ids and generations it
selected, in order; later it goes through them and sees those of the
documents that are still stored under the same generation, with whatever
they contain by then. A handle is one document of a view, by id and by
what may be found there (`Pin`).
-/

namespace DocumentStore

/-- A view of a collection. -/
structure View where
  store : StoreId
  root : RootId
  name : String
  /-- The ids and generations a filter selected; all, without a filter. -/
  scope : Option (Bindings Nat)
  options : Options

/-- What a handle may find under its id. -/
inductive Pin where
  /-- Whatever is stored there. -/
  | any
  /-- Only what is stored under a generation. -/
  | generation (n : Nat)
  /-- Nothing. -/
  | hidden
  deriving DecidableEq, Repr

/-- A handle of one document. -/
structure Handle where
  store : StoreId
  root : RootId
  id : String
  pin : Pin

/-- What a view says about itself. -/
structure ViewInfo where
  name : String
  filtered : Bool
  orderBy : SortKeys
  limit : Option Nat
  skip : Option Nat
  count : Nat

/-- The same entry with a patch applied to its document. -/
def Entry.patch (p : Patch) (e : Entry) : Entry := { e with fields := p.apply e.fields }

namespace Entries

/-- The entries that are still stored under the generation a scope has for
their id, in the order of the scope. -/
def live (entries : Entries) (scope : Bindings Nat) : Entries :=
  scope.filterMap fun (id, generation) =>
    ((entries.get? id).filter (·.generation == generation)).map (id, ·)

/-- Applies a patch to these entries, one after the other, and counts them. -/
def patchLive (p : Patch) (entries : Entries) : Bindings Nat → Nat × Entries
  | [] => (0, entries)
  | (id, generation) :: rest =>
    if (entries.get? id).any (·.generation == generation) then
      let (n, entries) := patchLive p (entries.modify id (Entry.patch p)) rest
      (n + 1, entries)
    else patchLive p entries rest

end Entries

namespace View

variable (v : View) (db : Database)

/-- The view of a whole collection. -/
def whole (store : StoreId) (root : RootId) (name : String) : View :=
  ⟨store, root, name, none, .default⟩

/-! ## What a view sees -/

/-- Whether an entry counts. -/
def admits (id : String) (e : Entry) : Bool :=
  match v.scope with
  | none => true
  | some scope => scope.get? id == some e.generation

/-- The entries the view sees: all of the collection, or those its scope
still finds there. -/
def visible : Entries :=
  match v.scope with
  | none => db.entries v.root
  | some scope => (db.entries v.root).live scope

/-- How many documents the view sees, whatever its page. -/
def count : Nat := (v.visible db).length

/-- **Reading a view**: the documents with their ids, sorted, then
skipped, then limited. Without keys only the page is read out. -/
def get : List Value :=
  let visible := v.visible db
  if v.options.orderBy.isEmpty then
    (v.options.page visible).map fun (id, e) => e.fields.withId id
  else
    v.options.page (v.options.orderBy.sort (visible.map fun (id, e) => e.fields.withId id))

/-- What the view says about itself now. -/
def info : ViewInfo where
  name := v.name
  filtered := v.scope.isSome
  orderBy := v.options.orderBy
  limit := v.options.limit
  skip := v.options.skip
  count := v.count db

/-- The diagnostic text of a view. -/
def inspect : String :=
  "Collection \x7b name: " ++ Escaped.showText v.name ++ ", scope: "
    ++ Options.inspectNat? (v.scope.map List.length) ++ ", options: " ++ v.options.inspect ++ " \x7d"

/-! ## Derived views -/

/-- The view of the documents that pass a filter now, without options. -/
def filter (f : Filter) : View :=
  let selected := (v.visible db).filter fun (id, e) => f.test id e.fields
  { v with scope := some (selected.map fun (id, e) => (id, e.generation)), options := .default }

/-- The same by a filter read from a value. -/
def filterValue (value : Value) : Except StoreError View := do
  return v.filter db (← Filter.ofValue? value)

/-- The same view with another limit. -/
def limit (n : Nat) : View := { v with options := { v.options with limit := some n } }

/-- The same view with another number of documents skipped. -/
def skip (n : Nat) : View := { v with options := { v.options with skip := some n } }

/-- The same view with one more, least significant, key. -/
def orderBy (field : String) (direction : Direction) : View :=
  { v with options := v.options.addKey field direction }

/-- The handle of a document of the view. -/
def handle (id : String) : Handle where
  store := v.store
  root := v.root
  id
  pin := match v.scope with
    | none => .any
    | some scope =>
      match scope.get? id with
      | some n => .generation n
      | none => .hidden

/-! ## Mutations -/

/-- Stores a document, under the id it asks for or one drawn at random, and
returns the id. A field of the id's name is not stored. -/
def add (document : Value) : Except StoreError (String × Database) :=
  match document with
  | .object members =>
    let fields := Bindings.erase members idField
    let taken (id : String) : Bool := (db.entries v.root).contains id
    match Document.explicitId? members with
    | some id =>
      if taken id then .error (.duplicateId id)
      else .ok (id, (db.putDocument v.root id fields).touch v.store)
    | none =>
      match Identifier.draw? taken db.words with
      | some (id, words) =>
        .ok (id, ({ db with words }.putDocument v.root id fields).touch v.store)
      | none => .error .exhausted
  | _ => .error .invalidDocument

/-- Applies a patch to every document the view sees, and says how many
these were. -/
def update (p : Patch) : Nat × Database :=
  let entries := db.entries v.root
  let (n, updated) := match v.scope with
    | none => (entries.length, entries.mapValues (Entry.patch p))
    | some scope => Entries.patchLive p entries scope
  (n, (db.setEntries v.root updated).touch v.store)

/-- The same by a patch read from a value. -/
def updateValue (value : Value) : Except StoreError (Nat × Database) := do
  return v.update db (← Patch.ofValue? value)

/-- Removes every document the view sees, whatever its page, and says how
many these were. -/
def remove : Nat × Database :=
  let entries := db.entries v.root
  let kept := entries.filter fun (id, e) => !v.admits id e
  (entries.length - kept.length, (db.setEntries v.root kept).touch v.store)

end View

namespace Pin

/-- Whether an entry may be found. -/
def admits : Pin → Entry → Bool
  | .any, _ => true
  | .generation n, e => e.generation == n
  | .hidden, _ => false

/-- The diagnostic text of a pin. -/
def inspect : Pin → String
  | .any => "Any"
  | .generation n => "Generation(" ++ toString n ++ ")"
  | .hidden => "Hidden"

end Pin

namespace Handle

variable (h : Handle) (db : Database)

/-- The entry the handle stands for, if there is one now. -/
def entry? : Option Entry := ((db.entries h.root).get? h.id).filter h.pin.admits

/-- The document with its id, if there is one. -/
def get? : Option Value := (h.entry? db).map fun e => e.fields.withId h.id

/-- Whether there is such a document. -/
def isPresent : Bool := (h.entry? db).isSome

/-- Applies a patch to the document. -/
def update (p : Patch) : Except StoreError Database :=
  match h.entry? db with
  | some e =>
    let entries := (db.entries h.root).insert h.id (e.patch p)
    .ok ((db.setEntries h.root entries).touch h.store)
  | none => .error (.documentNotFound h.id)

/-- The same by a patch read from a value. -/
def updateValue (value : Value) : Except StoreError Database := do
  h.update db (← Patch.ofValue? value)

/-- Removes the document, and says whether there was one. -/
def remove : Bool × Database :=
  if h.isPresent db then
    (true, (db.setEntries h.root ((db.entries h.root).erase h.id)).touch h.store)
  else (false, db)

/-- The diagnostic text of a handle. -/
def inspect : String :=
  "DocRef \x7b id: " ++ Escaped.showText h.id ++ ", pin: " ++ h.pin.inspect ++ " \x7d"

end Handle

end DocumentStore
