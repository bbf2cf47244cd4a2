import DocumentStore.Value.Coercion
import DocumentStore.Value.Inspection

/-!
# Commands — tests of one field

A command is a comparison of a field with an operand, membership in a
list, presence, or two commands joined. `Command.test` runs it on a field
that may be absent.
-/

namespace DocumentStore

/-- A test of one field. -/
inductive Command where
  | eq (operand : Value)
  | neq (operand : Value)
  | lt (operand : Value)
  | lte (operand : Value)
  | gt (operand : Value)
  | gte (operand : Value)
  | oneOf (operands : List Value)
  | noneOf (operands : List Value)
  | exists (flag : Bool)
  | and (left right : Command)
  | or (left right : Command)

namespace Command

/-- The name of the outermost operator. -/
def name : Command → String
  | .eq _ => "eq"
  | .neq _ => "neq"
  | .lt _ => "lt"
  | .lte _ => "lte"
  | .gt _ => "gt"
  | .gte _ => "gte"
  | .oneOf _ => "in"
  | .noneOf _ => "nin"
  | .exists _ => "exists"
  | .and _ _ => "and"
  | .or _ _ => "or"

/-- Whether a field is there and not null. -/
def isPresent : Option Value → Bool
  | none => false
  | some .null => false
  | some _ => true

/-- Runs the test on a field. Equality is loose and membership strict; an
undefined comparison fails whatever the operator. -/
def test : Command → Option Value → Bool
  | .eq operand, field => looseEq field (some operand)
  | .neq operand, field => !looseEq field (some operand)
  | .lt operand, field => compareRelational? field operand == some .lt
  | .lte operand, field =>
    compareRelational? field operand == some .lt || compareRelational? field operand == some .eq
  | .gt operand, field => compareRelational? field operand == some .gt
  | .gte operand, field =>
    compareRelational? field operand == some .gt || compareRelational? field operand == some .eq
  | .oneOf operands, field => operands.any (strictEq field)
  | .noneOf operands, field => !operands.any (strictEq field)
  | .exists flag, field => isPresent field == flag
  | .and left right, field => left.test field && right.test field
  | .or left right, field => left.test field || right.test field

/-- The diagnostic text of a command. -/
def inspect : Command → String
  | .eq operand => "EqOperator(" ++ operand.inspect ++ ")"
  | .neq operand => "NeqOperator(" ++ operand.inspect ++ ")"
  | .lt operand => "LtOperator(" ++ operand.inspect ++ ")"
  | .lte operand => "LteOperator(" ++ operand.inspect ++ ")"
  | .gt operand => "GtOperator(" ++ operand.inspect ++ ")"
  | .gte operand => "GteOperator(" ++ operand.inspect ++ ")"
  | .oneOf operands => "InOperator(" ++ Value.inspectList operands ++ ")"
  | .noneOf operands => "NinOperator(" ++ Value.inspectList operands ++ ")"
  | .exists flag => "ExistsOperator(" ++ (if flag then "true" else "false") ++ ")"
  | .and left right => "AndOperator(" ++ left.inspect ++ ", " ++ right.inspect ++ ")"
  | .or left right => "OrOperator(" ++ left.inspect ++ ", " ++ right.inspect ++ ")"

end Command

end DocumentStore
