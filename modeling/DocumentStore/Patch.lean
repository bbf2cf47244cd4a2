import DocumentStore.Query.Filter
import DocumentStore.Value.Arithmetic

/-!
# Patches

A patch maps fields to updates. Applying it replaces each field it names
by what the update makes of the field's value, which may be that the field
goes; fields it does not name stay as they are. A patch read from an
object sets every member.

A field is changed in its place in the document: its value is taken out, for
the update to work on, and null stands there until the update is done
(`Document.takeOut`, `Document.change`).
-/

namespace DocumentStore

/-- A change of one field. -/
inductive FieldUpdate where
  | set (v : Value)
  | remove
  | inc (operand : Value)
  | mul (operand : Value)
  | push (item : Value)
  | pop
  | shift
  | unshift (item : Value)

namespace FieldUpdate

/-- The name of an update. -/
def name : FieldUpdate → String
  | .set _ => "set"
  | .remove => "remove"
  | .inc _ => "inc"
  | .mul _ => "mul"
  | .push _ => "push"
  | .pop => "pop"
  | .shift => "shift"
  | .unshift _ => "unshift"

/-- Changes an array; what is not an array is left as it is. -/
def onArray (f : List Value → List Value) : Option Value → Option Value
  | some (.array items) => some (.array (f items))
  | field => field

/-- Changes an array, an absent field counting as an empty one. -/
def onArrayOrAbsent (f : List Value → List Value) : Option Value → Option Value
  | none => some (.array (f []))
  | field => onArray f field

/-- What an update makes of a field; nothing is an absent field. -/
def apply : FieldUpdate → Option Value → Option Value
  | .set v, _ => some v
  | .remove, _ => none
  | .inc operand, field => some (Arithmetic.add.apply field operand)
  | .mul operand, field => some (Arithmetic.mul.apply field operand)
  | .push item, field => onArrayOrAbsent (· ++ [item]) field
  | .pop, field => onArray List.dropLast field
  | .shift, field => onArray (List.drop 1) field
  | .unshift item, field => onArrayOrAbsent (item :: ·) field

/-- The diagnostic text of an update. -/
def inspect : FieldUpdate → String
  | .set v => "SetOperator(" ++ v.inspect ++ ")"
  | .remove => "RemoveOperator"
  | .inc operand => "IncOperator(" ++ operand.inspect ++ ")"
  | .mul operand => "MulOperator(" ++ operand.inspect ++ ")"
  | .push item => "PushOperator(" ++ item.inspect ++ ")"
  | .pop => "PopOperator"
  | .shift => "ShiftOperator"
  | .unshift item => "UnshiftOperator(" ++ item.inspect ++ ")"

end FieldUpdate

namespace Document

/-- Takes the value of a field out, and leaves null in its place. -/
def takeOut (doc : Document) (name : String) : Option Value × Document :=
  match doc.get? name with
  | some v => (some v, doc.insert name .null)
  | none => (none, doc)

/-- Replaces a field by what a function makes of its value. -/
def change (doc : Document) (name : String) (f : Option Value → Option Value) : Document :=
  let (field, doc) := doc.takeOut name
  match f field with
  | some v => doc.insert name v
  | none => doc.erase name

/-- Nothing is left of the null that stood in the place of the value. -/
theorem change_eq (doc : Document) (name : String) (f : Option Value → Option Value) :
    doc.change name f =
      match f (doc.get? name) with
      | some v => doc.insert name v
      | none => doc.erase name := by
  unfold change takeOut
  cases doc.get? name with
  | none => rfl
  | some old =>
    cases hf : f (some old) with
    | some v => simp only [hf, Bindings.insert_insert]
    | none => simp only [hf, Bindings.erase_insert]

/-- **A change of a field** is a change of no other. -/
theorem get?_change (doc : Document) (name : String) (f : Option Value → Option Value)
    (k : String) :
    (doc.change name f).get? k = if name = k then f (doc.get? k) else doc.get? k := by
  rw [change_eq]
  split
  · next v hv =>
    rw [Bindings.get?_insert]
    split
    · next h => rw [← h, hv]
    · rfl
  · next hv =>
    rw [Bindings.get?_erase]
    split
    · next h => rw [← h, hv]
    · rfl

end Document

/-- Changes of fields, in order. -/
abbrev Patch := Bindings FieldUpdate

namespace Patch

/-- Adds a change, in place of one of the same field. -/
def field (p : Patch) (name : String) (update : FieldUpdate) : Patch :=
  Bindings.insert p name update

/-- Reads a patch from a value: every member is set. -/
def ofValue? : Value → Except StoreError Patch
  | .object members => .ok (members.map fun (k, v) => (k, .set v))
  | _ => .error .invalidPatch

/-- Changes one field of a document. -/
def applyField (doc : Document) (name : String) (update : FieldUpdate) : Document :=
  doc.change name update.apply

/-- Applies the changes one after the other. -/
def apply (p : Patch) (doc : Document) : Document :=
  p.foldl (fun doc (name, update) => applyField doc name update) doc

end Patch

end DocumentStore
