import Std.Data.HashMap

/-!
# Metering

A pattern is accepted if the automaton made for it fits into a given
space. The automaton itself is not kept: its making is metered, state by
state, and refused as soon as the space is used up (`Meter`). States are
numbered as they come, since the sharing of states looks at their numbers.

What is to be shared is remembered in a table with a fixed number of
places (`Slots`); a later entry takes the place of an earlier one.
-/

namespace DocumentStore.Pattern.Size

/-- The number of states made so far, and the bytes they take beyond the
fixed part of each. -/
structure Tally where
  states : Nat
  extra : Nat
  deriving DecidableEq, Repr

/-- The bytes of the fixed part of a state. -/
def stateBytes : Nat := 32

/-- The bytes of an edge by which one of several ranges of bytes leads on. -/
def edgeBytes : Nat := 8

/-- The bytes of a branch that leads on without reading. -/
def branchBytes : Nat := 4

/-- The largest number of bytes allowed. -/
def maxBytes : Nat := 10485760

/-- The bytes taken. -/
def Tally.bytes (t : Tally) : Nat := stateBytes * t.states + t.extra

/-- A step in the making of an automaton. -/
abbrev Meter := StateT Tally Option

/-- Makes states, with the given number of bytes beyond their fixed parts. -/
def grow (states extra : Nat) : Meter Unit := fun t =>
  let t : Tally := ⟨t.states + states, t.extra + extra⟩
  if t.bytes ≤ maxBytes then some ((), t) else none

/-- Makes one state and gives its number. -/
def newState (extra : Nat) : Meter Nat := do
  let t ← get
  grow 1 extra
  return t.states

/-- A table of entries under keys, a key's place being one of a fixed number
of places. -/
structure Slots (α : Type) where
  size : Nat
  entries : Std.HashMap Nat (α × Nat)

namespace Slots

variable {α : Type}

/-- The table with nothing in it. -/
def ofSize (size : Nat) : Slots α := ⟨size, ∅⟩

/-- The place of a key given by numbers, which are mixed one after the other
into 64 bits. -/
def place (s : Slots α) (key : List Nat) : Nat :=
  (key.foldl (fun (h : UInt64) n => (h ^^^ n.toUInt64) * 0x100000001B3)
    0xCBF29CE484222325).toNat % s.size

/-- The entry of a key, if it is the one in the key's place. -/
def find? [BEq α] (s : Slots α) (place : Nat) (key : α) : Option Nat :=
  match s.entries[place]? with
  | some (key', value) => if key == key' then some value else none
  | none => none

/-- Puts an entry into a place. -/
def put (s : Slots α) (place : Nat) (key : α) (value : Nat) : Slots α :=
  { s with entries := s.entries.insert place (key, value) }

end Slots

end DocumentStore.Pattern.Size
