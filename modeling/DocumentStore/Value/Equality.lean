import DocumentStore.Value.Basic

/-!
# Structural equality of values

Two values are the same when they are of one kind and alike all the way
down: arrays item by item, objects key by key whatever the order of their
keys. Numbers keep their kinds apart, so `1` and `1.0` are not the same.
-/

namespace DocumentStore.Value

mutual

/-- Structural equality, blind to the order of keys. -/
def same : Value → Value → Bool
  | .null, .null => true
  | .bool a, .bool b => a == b
  | .number m, .number n => m.same n
  | .string s, .string t => s == t
  | .array items, .array items' => sameItems items items'
  | .object members, .object members' =>
    members.length == members'.length && sameMembers members members'
  | _, _ => false

/-- Equality of arrays, item by item. -/
def sameItems : List Value → List Value → Bool
  | [], [] => true
  | v :: rest, v' :: rest' => same v v' && sameItems rest rest'
  | _, _ => false

/-- Every binding of the first has the same value in the second. -/
def sameMembers : List (String × Value) → List (String × Value) → Bool
  | [], _ => true
  | (k, v) :: rest, members =>
    (match Bindings.get? members k with
      | some w => same v w
      | none => false) && sameMembers rest members

end

end DocumentStore.Value
