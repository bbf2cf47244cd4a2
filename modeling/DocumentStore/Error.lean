import DocumentStore.Value.Printer

/-!
# Errors

Why an operation of the store is refused. The causes are the constructors;
their wording is `StoreError.message`.
-/

namespace DocumentStore

/-- What is wrong with a query. -/
inductive QueryFault where
  /-- A filter was to be made of a value that is no object. -/
  | notAnObject (v : Value)
  /-- The text is no pattern. -/
  | pattern (source : String)
  /-- The text names no direction. -/
  | direction (text : String)

/-- Why an operation is refused. -/
inductive StoreError where
  | io
  | serialization
  | notInitialized
  | collectionExists (name : String)
  | invalidDocument
  | duplicateId (id : String)
  | documentNotFound (id : String)
  | invalidPatch
  | invalidQuery (fault : QueryFault)
  /-- A snapshot of the wrong kind. -/
  | invalidSnapshot (kind : String)
  /-- The supply of random words ran out while drawing an id. -/
  | exhausted

namespace QueryFault

/-- What is said about the query. -/
def message : QueryFault → String
  | .notAnObject v => "filter must be a JSON object, got " ++ v.print
  | .pattern source => "Invalid pattern '" ++ source ++ "'"
  | .direction text => "order must be 'asc' or 'desc', got '" ++ text ++ "'"

end QueryFault

namespace StoreError

/-- The wording of an error. -/
def message : StoreError → String
  | .io => "IO error"
  | .serialization => "Serialization error"
  | .notInitialized => "Store not initialized, call init() first"
  | .collectionExists name => "Collection already exists: " ++ name
  | .invalidDocument => "Document must be a JSON object"
  | .duplicateId id => "Document id already exists: " ++ id
  | .documentNotFound id => "Document not found: " ++ id
  | .invalidPatch => "Update patch must be a JSON object"
  | .invalidQuery fault => "Invalid query: " ++ fault.message
  | .invalidSnapshot kind =>
    "Invalid snapshot: expected an object of collections, got " ++ kind
  | .exhausted => "Random words exhausted"

end StoreError

end DocumentStore
