import DocumentStore.Numeric.Notation
import DocumentStore.Bindings

/-!
# Values — what a document is made of

A value is null, a boolean, a number, a string, an array or an object
whose members keep their order. A number is an integer of 64 bits, with
or without sign, or a finite double, and stays of its kind: the integer
`1` and the double `1.0` are different numbers with one numeric value
(`Number.toBinary64`). A value is *well formed* when no object inside it
has a key twice; reading a text, and every operation of the store, gives
well-formed values only.
-/

namespace DocumentStore

/-- An integer that fits in 64 bits, signed or unsigned. -/
structure WideInt where
  val : Int
  lower : -9223372036854775808 ≤ val
  upper : val ≤ 18446744073709551615
  deriving DecidableEq, Repr

namespace WideInt

/-- The wide integer of an integer in range. -/
def ofInt? (n : Int) : Option WideInt :=
  if h : -9223372036854775808 ≤ n ∧ n ≤ 18446744073709551615 then some ⟨n, h.1, h.2⟩
  else none

theorem ofInt?_val (n : WideInt) : ofInt? n.val = some n := dif_pos ⟨n.lower, n.upper⟩

/-- Whether the integer fits in 64 bits with a sign. -/
def isSigned (n : WideInt) : Bool := n.val ≤ 9223372036854775807

end WideInt

/-- A number of a document. -/
inductive Number where
  | integer (n : WideInt)
  | float (x : Finite64)
  deriving DecidableEq, Repr

namespace Number

/-- The nearest double; only integers past `2 ^ 53` are rounded. -/
def toBinary64 : Number → Binary64
  | .integer n => .ofInt n.val
  | .float x => .finite x

/-- Structural equality: kinds differ, doubles compare as numbers. -/
def same : Number → Number → Bool
  | .integer m, .integer n => m.val == n.val
  | .float x, .float y => x.units == y.units
  | _, _ => false

/-- The form of data: an integer by its digits, a double always with a
point or an exponent. -/
def exactText : Number → String
  | .integer n => String.ofList (integerText n.val)
  | .float x => String.ofList x.exactText

/-- The form of running text. -/
def plainText : Number → String
  | .integer n => String.ofList (integerText n.val)
  | .float x => String.ofList x.plainText

end Number

/-- A value of a document. -/
inductive Value where
  | null
  | bool (b : Bool)
  | number (n : Number)
  | string (s : String)
  | array (items : List Value)
  | object (members : List (String × Value))
  deriving Repr

instance : Inhabited Value := ⟨.null⟩

namespace Value

/-- The name of a value's kind. -/
def kindName : Value → String
  | .null => "null"
  | .bool _ => "boolean"
  | .number _ => "number"
  | .string _ => "string"
  | .array _ => "array"
  | .object _ => "object"

/-- Whether the value is an array or an object. -/
def isContainer : Value → Bool
  | .array _ => true
  | .object _ => true
  | _ => false

/-- The member under a key; what is no object has none. -/
def member? : Value → String → Option Value
  | .object members, key => Bindings.get? members key
  | _, _ => none

/-- The integer value of an integer in range. -/
def ofInt? (n : Int) : Option Value := (WideInt.ofInt? n).map fun i => .number (.integer i)

/-- The integer value of a natural number, which is null past the range. -/
def ofNat (n : Nat) : Value := (ofInt? n).getD .null

mutual

/-- How many arrays and objects lie around the innermost value. -/
def depth : Value → Nat
  | .array items => itemsDepth items + 1
  | .object members => membersDepth members + 1
  | _ => 0

/-- The depth of the deepest item. -/
def itemsDepth : List Value → Nat
  | [] => 0
  | v :: rest => max (depth v) (itemsDepth rest)

/-- The depth of the deepest member. -/
def membersDepth : List (String × Value) → Nat
  | [] => 0
  | (_, v) :: rest => max (depth v) (membersDepth rest)

end

mutual

/-- No object in the value has a key twice. -/
def WellFormed : Value → Prop
  | .array items => ItemsWellFormed items
  | .object members => Bindings.Distinct members ∧ MembersWellFormed members
  | _ => True

/-- Every item is well-formed. -/
def ItemsWellFormed : List Value → Prop
  | [] => True
  | v :: rest => WellFormed v ∧ ItemsWellFormed rest

/-- Every member is well-formed. -/
def MembersWellFormed : List (String × Value) → Prop
  | [] => True
  | (_, v) :: rest => WellFormed v ∧ MembersWellFormed rest

end

/-- Well-formed items, by membership. -/
theorem itemsWellFormed_iff {items : List Value} :
    ItemsWellFormed items ↔ ∀ v ∈ items, WellFormed v := by
  induction items with
  | nil => simp [ItemsWellFormed]
  | cons v rest ih => simp [ItemsWellFormed, ih]

/-- Well-formed members, by membership. -/
theorem membersWellFormed_iff {members : List (String × Value)} :
    MembersWellFormed members ↔ ∀ k v, (k, v) ∈ members → WellFormed v := by
  induction members with
  | nil => simp [MembersWellFormed]
  | cons e rest ih =>
    obtain ⟨k, v⟩ := e
    simp only [MembersWellFormed, ih, List.mem_cons, Prod.mk.injEq]
    constructor
    · rintro ⟨hv, hrest⟩ k' v' (⟨rfl, rfl⟩ | h)
      · exact hv
      · exact hrest k' v' h
    · intro h
      exact ⟨h k v (.inl ⟨rfl, rfl⟩), fun k' v' hmem => h k' v' (.inr hmem)⟩

/-- **Induction on values**: of an array by its items, of an object by its
members. -/
theorem induction {P : Value → Prop} (null : P .null) (bool : ∀ b, P (.bool b))
    (number : ∀ n, P (.number n)) (string : ∀ s, P (.string s))
    (array : ∀ items, (∀ v ∈ items, P v) → P (.array items))
    (object : ∀ members, (∀ k v, (k, v) ∈ members → P v) → P (.object members)) : ∀ v, P v
  | .null => null
  | .bool b => bool b
  | .number n => number n
  | .string s => string s
  | .array items => array items fun v _ => induction null bool number string array object v
  | .object members =>
    object members fun k v _ => induction null bool number string array object v
  termination_by v => sizeOf v
  decreasing_by
    · decreasing_tactic
    · have hlt := List.sizeOf_lt_of_mem ‹(k, v) ∈ members›
      simp only [Prod.mk.sizeOf_spec, Value.object.sizeOf_spec] at hlt ⊢
      omega

end Value

end DocumentStore
