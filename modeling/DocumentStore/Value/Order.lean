import DocumentStore.Value.Coercion

/-!
# The order of fields

Sorting puts any two fields in order, whatever their kinds: absent fields
first, then null, numbers, strings, booleans, objects and arrays. Numbers
go by value with `-0` below `0`, strings by code points, `false` before
`true`; two nulls, two objects or two arrays tie.
-/

namespace DocumentStore

/-- A key of the total order of doubles: an infinity lies past every
finite rank, NaN past both. -/
def Binary64.rank : Binary64 → Int
  | .finite x => x.rank
  | .infinite true => -(2 * Finite64.beyond : Int)
  | .infinite false => 2 * Finite64.beyond + 1
  | .nan => 2 * Finite64.beyond + 2

/-- Where a field's kind stands in the order. -/
def kindRank : Option Value → Nat
  | none => 0
  | some .null => 1
  | some (.number _) => 2
  | some (.string _) => 3
  | some (.bool _) => 4
  | some (.object _) => 5
  | some (.array _) => 6

/-- The order within a kind. -/
def compareAlike : Option Value → Option Value → Ordering
  | some (.number m), some (.number n) => compare m.toBinary64.rank n.toBinary64.rank
  | some (.string s), some (.string t) => compare s t
  | some (.bool a), some (.bool b) => compare a b
  | _, _ => .eq

/-- The order of fields: by kind first, then within the kind. -/
def compareFields (a b : Option Value) : Ordering :=
  (compare (kindRank a) (kindRank b)).then (compareAlike a b)

end DocumentStore
