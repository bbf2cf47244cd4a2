import DocumentStore.Value.Basic
import DocumentStore.Text.Escaped

/-!
# Inspecting values

The text by which diagnostics show a value: its kind is named, strings are
shown escaped, numbers in the form of data.
-/

namespace DocumentStore.Value

mutual

/-- The diagnostic text of a value. -/
def inspect : Value → String
  | .null => "Null"
  | .bool b => if b then "Bool(true)" else "Bool(false)"
  | .number n => "Number(" ++ n.exactText ++ ")"
  | .string s => "String(" ++ Escaped.showText s ++ ")"
  | .array items => "Array [" ++ ", ".intercalate (inspectItems items) ++ "]"
  | .object members => "Object \x7b" ++ ", ".intercalate (inspectMembers members) ++ "\x7d"

/-- The diagnostic texts of items. -/
def inspectItems : List Value → List String
  | [] => []
  | v :: rest => inspect v :: inspectItems rest

/-- The diagnostic texts of members, each behind its key. -/
def inspectMembers : List (String × Value) → List String
  | [] => []
  | (k, v) :: rest => (Escaped.showText k ++ ": " ++ inspect v) :: inspectMembers rest

end

/-- The diagnostic text of a list of values. -/
def inspectList (items : List Value) : String :=
  "[" ++ ", ".intercalate (inspectItems items) ++ "]"

end DocumentStore.Value
