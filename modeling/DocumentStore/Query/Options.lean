import DocumentStore.Error
import DocumentStore.Value.Order
import DocumentStore.Text.Escaped

/-!
# Options — order and page of a result

The documents of a view are sorted by a list of fields, each in a
direction, the first field that tells two documents apart deciding; the
sort is stable in both directions. Of the sorted list a number of leading
documents is skipped and a number of the rest is kept, no limit and the
limit zero keeping all.
-/

namespace DocumentStore

/-- The direction of a sort. -/
inductive Direction where
  | ascending
  | descending
  deriving DecidableEq, Repr

namespace Direction

/-- The name of a direction. -/
def text : Direction → String
  | .ascending => "asc"
  | .descending => "desc"

/-- The direction a text names, the case of ASCII letters not counting. -/
def ofText? (text : String) : Except StoreError Direction :=
  let name := text.toList.map Char.toLower
  if name = "asc".toList then .ok .ascending
  else if name = "desc".toList then .ok .descending
  else .error (.invalidQuery (.direction text))

/-- The direction a value stands for: its name, or an object of its name
and null. -/
def ofValue? : Value → Except StoreError Direction
  | .string "asc" => .ok .ascending
  | .string "desc" => .ok .descending
  | .object [("asc", .null)] => .ok .ascending
  | .object [("desc", .null)] => .ok .descending
  | _ => .error .serialization

/-- Turns an ordering into the direction. -/
def orient : Direction → Ordering → Ordering
  | .ascending, o => o
  | .descending, o => o.swap

/-- The diagnostic text of a direction. -/
def inspect : Direction → String
  | .ascending => "Asc"
  | .descending => "Desc"

end Direction

/-- A list of fields to sort by, most significant first. -/
abbrev SortKeys := List (String × Direction)

namespace SortKeys

/-- Compares two documents: the first key on which they differ decides. -/
def compareBy : SortKeys → Value → Value → Ordering
  | [], _, _ => .eq
  | (field, direction) :: rest, a, b =>
    (direction.orient (compareFields (a.member? field) (b.member? field))).then
      (compareBy rest a b)

/-- Whether the keys allow the first document before the second. -/
def precedes (keys : SortKeys) (a b : Value) : Bool := (keys.compareBy a b).isLE

/-- Sorts documents, leaving those in their order that the keys do not
tell apart. -/
def sort (keys : SortKeys) (docs : List Value) : List Value :=
  if keys.isEmpty then docs else docs.mergeSort keys.precedes

end SortKeys

/-- What a view does with the documents it sees. -/
structure Options where
  orderBy : SortKeys
  limit : Option Nat
  skip : Option Nat
  deriving DecidableEq, Repr

namespace Options

/-- No order, no limit, nothing skipped. -/
def default : Options := ⟨[], none, none⟩

/-- How many documents are skipped. -/
def skipCount (o : Options) : Nat := o.skip.getD 0

/-- How many documents are kept at most; the limit zero is none. -/
def limitCount? (o : Options) : Option Nat := o.limit.filter (0 < ·)

/-- Skips and limits a list. -/
def page {α : Type} (o : Options) (docs : List α) : List α :=
  match o.limitCount? with
  | some n => (docs.drop o.skipCount).take n
  | none => docs.drop o.skipCount

/-- Adds a least significant key. -/
def addKey (o : Options) (field : String) (direction : Direction) : Options :=
  { o with orderBy := o.orderBy ++ [(field, direction)] }

/-- The diagnostic text of an optional number. -/
def inspectNat? : Option Nat → String
  | some n => "Some(" ++ toString n ++ ")"
  | none => "None"

/-- The diagnostic text of options. -/
def inspect (o : Options) : String :=
  let keys := o.orderBy.map fun (field, direction) =>
    "(" ++ Escaped.showText field ++ ", " ++ direction.inspect ++ ")"
  "FindOptions \x7b order_by: [" ++ ", ".intercalate keys ++ "], limit: " ++ inspectNat? o.limit
    ++ ", skip: " ++ inspectNat? o.skip ++ " \x7d"

end Options

end DocumentStore
