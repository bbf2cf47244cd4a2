import DocumentStore.Value.Equality
import DocumentStore.Numeric.Numeral
import DocumentStore.Text.Blank

/-!
# Coercion — values seen as numbers and as text

Queries and updates compare unlike values by way of their primitive form
(`Primitive`): an array or object stands for its text, a number for its
double, and a field that is not there for the absent primitive. From it
come the numeric value (`toNumber`), loose and strict equality
(`looseEq`, `strictEq`) and the relational comparison
(`compareRelational?`). An absent field is `none` throughout.
-/

namespace DocumentStore

namespace Value

mutual

/-- The text of a value: an array is its items between commas, an object
a fixed text. -/
def plainText : Value → String
  | .null => "null"
  | .bool b => if b then "true" else "false"
  | .number n => n.plainText
  | .string s => s
  | .array items => ",".intercalate (itemTexts items)
  | .object _ => "[object Object]"

/-- The texts of an array's items; a null item has none. -/
def itemTexts : List Value → List String
  | [] => []
  | .null :: rest => "" :: itemTexts rest
  | v :: rest => plainText v :: itemTexts rest

end

end Value

/-- The number a text stands for: blanks around it do not count and blank
text is zero; hexadecimal digits stand behind `0x`; what is no numeral is
not a number. -/
def numberOfText (text : String) : Binary64 :=
  match trim text.toList with
  | [] => .finite (.zero false)
  | '0' :: 'x' :: digits => hexadecimal digits
  | '0' :: 'X' :: digits => hexadecimal digits
  | t =>
    if t = "Infinity".toList ∨ t = "+Infinity".toList then .infinite false
    else if t = "-Infinity".toList then .infinite true
    else ((Numeral.read? t).map Numeral.value).getD .nan
where
  /-- A plus sign may stand before the digits; the number must fit in 64
  bits. -/
  hexadecimal (text : List Char) : Binary64 :=
    let digits := match text with
      | '+' :: rest => rest
      | _ => text
    match hexValue? digits with
    | some n => if n < 18446744073709551616 then .ofInt n else .nan
    | none => .nan

/-- What is left of a value when only its primitive form counts. -/
inductive Primitive where
  | absent
  | null
  | bool (b : Bool)
  | number (x : Binary64)
  | text (s : String)
  deriving DecidableEq, Repr

namespace Primitive

/-- The primitive form of a field. -/
def ofValue : Option Value → Primitive
  | none => .absent
  | some .null => .null
  | some (.bool b) => .bool b
  | some (.number n) => .number n.toBinary64
  | some (.string s) => .text s
  | some v => .text v.plainText

/-- The number of a primitive. -/
def toNumber : Primitive → Binary64
  | .absent => .nan
  | .null => .finite (.zero false)
  | .bool b => .ofInt (if b then 1 else 0)
  | .number x => x
  | .text s => numberOfText s

/-- The text of a primitive. -/
def toText : Primitive → String
  | .absent => "undefined"
  | .null => "null"
  | .bool b => if b then "true" else "false"
  | .number x => String.ofList x.plainText
  | .text s => s

/-- Absent and null. -/
def isMissing : Primitive → Bool
  | .absent => true
  | .null => true
  | _ => false

/-- Equality of primitives of any two kinds: what is missing equals only
what is missing, texts and booleans compare among themselves, and every
other pair as numbers. -/
def looseEq (a b : Primitive) : Bool :=
  if a.isMissing || b.isMissing then a.isMissing && b.isMissing
  else match a, b with
    | .text s, .text t => s == t
    | .bool x, .bool y => x == y
    | _, _ => a.toNumber.equal b.toNumber

end Primitive

/-- The number a field stands for; an absent field is not a number. -/
def toNumber (field : Option Value) : Binary64 := (Primitive.ofValue field).toNumber

/-- Loose equality of two fields: containers compare structurally with
containers, all else by its primitive form. -/
def looseEq (a b : Option Value) : Bool :=
  match a, b with
  | some v, some w =>
    if v.isContainer && w.isContainer then v.same w
    else (Primitive.ofValue a).looseEq (.ofValue b)
  | _, _ => (Primitive.ofValue a).looseEq (.ofValue b)

/-- Strict equality of a field with a value: numbers by their numeric
value, all else structurally. An absent field equals nothing. -/
def strictEq (field : Option Value) (v : Value) : Bool :=
  match field, v with
  | none, _ => false
  | some (.number m), .number n => m.toBinary64.equal n.toBinary64
  | some w, v => w.same v

/-- The relational comparison of a field with a value: two texts by code
points, all else by number; undefined when a side is not a number. -/
def compareRelational? (field : Option Value) (v : Value) : Option Ordering :=
  match Primitive.ofValue field, Primitive.ofValue (some v) with
  | .text s, .text t => some (compare s t)
  | a, b => a.toNumber.compare? b.toNumber

end DocumentStore
