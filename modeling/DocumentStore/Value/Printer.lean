import DocumentStore.Value.Basic
import DocumentStore.Text.Quoted

/-!
# Printing values

The text a value is persisted as: compact, members in their order.
-/

namespace DocumentStore

/-- A text between quotes, escaped. -/
def quote (s : String) : String := String.ofList (Quoted.encode s.toList)

namespace Value

mutual

/-- The text of a value. -/
def print : Value → String
  | .null => "null"
  | .bool b => if b then "true" else "false"
  | .number n => n.exactText
  | .string s => quote s
  | .array items => "[" ++ ",".intercalate (printItems items) ++ "]"
  | .object members => "\x7b" ++ ",".intercalate (printMembers members) ++ "\x7d"

/-- The texts of items. -/
def printItems : List Value → List String
  | [] => []
  | v :: rest => print v :: printItems rest

/-- The texts of members, each behind its key. -/
def printMembers : List (String × Value) → List String
  | [] => []
  | (k, v) :: rest => (quote k ++ ":" ++ print v) :: printMembers rest

end

end Value

end DocumentStore
