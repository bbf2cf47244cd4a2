import DocumentStore.Query.Filter

/-!
# Documents and the data of a collection

A collection's data binds ids to entries in the order they were stored.
An entry is a document and the generation it was stored under: no two
entries ever share one, an update keeps it, and a document stored anew
under an old id has another. Ids are not part of the documents, which
have theirs added only when they are read out (`Document.withId`).
-/

namespace DocumentStore

/-- A stored document and the generation it was stored under. -/
structure Entry where
  generation : Nat
  fields : Document

/-- The data of a collection: ids and entries in order. -/
abbrev Entries := Bindings Entry

namespace Document

/-- The id a document asks for: a text that is not empty, or a number by
its text. -/
def explicitId? (doc : Document) : Option String :=
  match doc.get? idField with
  | some (.string s) => if s = "" then none else some s
  | some (.number n) => some n.exactText
  | _ => none

/-- The document as it is read out, with its id. -/
def withId (id : String) (doc : Document) : Value := .object (doc.insert idField (.string id))

end Document

namespace Entries

/-- Takes over the entries of a persisted collection behind those there,
numbering them from `generation` on, and returns the next number:
documents under an id that is not empty, without a field of the id's name;
whatever else is there is passed over. -/
def loadOnto (entries : Entries) (generation : Nat) : List (String × Value) → Entries × Nat
  | [] => (entries, generation)
  | (id, .object fields) :: rest =>
    if id = "" then loadOnto entries generation rest
    else
      loadOnto (Bindings.insert entries id ⟨generation, Bindings.erase fields idField⟩)
        (generation + 1) rest
  | _ :: rest => loadOnto entries generation rest

/-- Takes over the entries of a persisted collection. -/
def load (generation : Nat) (members : List (String × Value)) : Entries × Nat :=
  loadOnto [] generation members

/-- The value a collection is persisted as. -/
def toValue (entries : Entries) : Value :=
  .object (entries.map fun (id, e) => (id, .object e.fields))

end Entries

end DocumentStore
