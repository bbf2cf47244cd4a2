import DocumentStore.Error
import DocumentStore.Pattern.Matcher
import DocumentStore.Query.Command

/-!
# Filters

A filter is a map from fields to criteria, all of which must hold, or a
list of alternatives, of which one must hold. The field `_id` stands for
the id a document is stored under and not for a member of the document.
Filters are built by adding criteria (`Filter.field`) or read from a value
(`Filter.ofValue?`), in which an object with just the members `type`,
being `"or"`, and `arr`, being an array, is a list of alternatives.
-/

namespace DocumentStore

/-- The members of a document, in order. -/
abbrev Document := Bindings Value

/-- The field that stands for a document's id. -/
def idField : String := "_id"

/-- A test of one field in a filter. -/
inductive Criterion where
  /-- Loose equality with a value. -/
  | literal (v : Value)
  | command (c : Command)
  | pattern (p : Pattern)

/-- A test of a document and its id. -/
inductive Filter where
  | fields (criteria : List (String × Criterion))
  | any (alternatives : List Filter)

namespace Criterion

/-- The criterion of the pattern a text denotes. -/
def ofSource? (source : String) : Except StoreError Criterion :=
  match Pattern.ofSource? source with
  | some p => .ok (.pattern p)
  | none => .error (.invalidQuery (.pattern source))

/-- Runs a criterion on a field. A pattern is tried on the field's text and
never matches an absent field. -/
def test : Criterion → Option Value → Bool
  | .literal v, field => looseEq field (some v)
  | .command c, field => c.test field
  | .pattern _, none => false
  | .pattern p, some v => p.isMatch v.plainText

end Criterion

namespace Filter

/-- The filter every document passes. -/
def empty : Filter := .fields []

mutual

/-- Adds a criterion, in place of one on the same field; to a list of
alternatives, in each of them. -/
def field (name : String) (c : Criterion) : Filter → Filter
  | .fields criteria => .fields (Bindings.insert criteria name c)
  | .any alternatives => .any (fieldEach name c alternatives)

/-- Adds a criterion to each of several filters. -/
def fieldEach (name : String) (c : Criterion) : List Filter → List Filter
  | [] => []
  | f :: rest => field name c f :: fieldEach name c rest

end

mutual

/-- Reads a filter from a value. -/
def ofValue? : Value → Except StoreError Filter
  | .object [("type", .string "or"), ("arr", .array alternatives)] =>
    (ofValues? alternatives).map .any
  | .object [("arr", .array alternatives), ("type", .string "or")] =>
    (ofValues? alternatives).map .any
  | .object members => .ok (.fields (members.map fun (k, v) => (k, .literal v)))
  | v => .error (.invalidQuery (.notAnObject v))

/-- Reads several filters; the first that cannot be read decides the error. -/
def ofValues? : List Value → Except StoreError (List Filter)
  | [] => .ok []
  | v :: rest => do
    let f ← ofValue? v
    let fs ← ofValues? rest
    return f :: fs

end

/-- What a field name stands for in a document stored under an id. -/
def fieldOf (id : String) (doc : Document) (name : String) : Option Value :=
  if name = idField then some (.string id) else doc.get? name

mutual

/-- Runs a filter on a document and its id. -/
def test (id : String) (doc : Document) : Filter → Bool
  | .fields criteria => criteria.all fun (name, c) => c.test (fieldOf id doc name)
  | .any alternatives => testAny id doc alternatives

/-- Whether any of several filters passes. -/
def testAny (id : String) (doc : Document) : List Filter → Bool
  | [] => false
  | f :: rest => test id doc f || testAny id doc rest

end

end Filter

end DocumentStore
