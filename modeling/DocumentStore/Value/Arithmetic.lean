import DocumentStore.Value.Coercion

/-!
# Arithmetic on fields

Addition and multiplication of a field by an operand. Integers stay exact
while the result fits in 64 bits with a sign; a sum with a text on either
side is their concatenation; everything else is computed in doubles, and
a result that is a whole number turns back into an integer
(`Value.ofBinary64`).
-/

namespace DocumentStore

/-- The two operations. -/
inductive Arithmetic where
  | add
  | mul
  deriving DecidableEq, Repr

/-- The value of a double: an integer if it is whole and no larger than
the integers a double holds exactly, null if it is not finite. -/
def Value.ofBinary64 : Binary64 → Value
  | .finite x =>
    if x.isIntegral && x.truncate.natAbs ≤ 9007199254740991 then
      (Value.ofInt? x.truncate).getD .null
    else .number (.float x)
  | _ => .null

namespace Arithmetic

/-- The operation on integers. -/
def onInt : Arithmetic → Int → Int → Int
  | .add => (· + ·)
  | .mul => (· * ·)

/-- The operation on doubles. -/
def onBinary64 : Arithmetic → Binary64 → Binary64 → Binary64
  | .add => .add
  | .mul => .mul

/-- The exact result on signed integers, if it is one again. -/
def exactly? (op : Arithmetic) : Option Value → Value → Option Value
  | some (.number (.integer m)), .number (.integer n) =>
    if m.isSigned && n.isSigned then
      (WideInt.ofInt? (op.onInt m.val n.val)).bind fun r =>
        if r.isSigned then some (.number (.integer r)) else none
    else none
  | _, _ => none

/-- Whether a primitive is a text. -/
def isText : Primitive → Bool
  | .text _ => true
  | _ => false

/-- The result by coercion. -/
def coerced (op : Arithmetic) (current : Option Value) (operand : Value) : Value :=
  let a := Primitive.ofValue current
  let b := Primitive.ofValue (some operand)
  if op = .add ∧ (isText a || isText b) then .string (a.toText ++ b.toText)
  else .ofBinary64 (op.onBinary64 a.toNumber b.toNumber)

/-- The field after the operation. -/
def apply (op : Arithmetic) (current : Option Value) (operand : Value) : Value :=
  (op.exactly? current operand).getD (op.coerced current operand)

end Arithmetic

end DocumentStore
