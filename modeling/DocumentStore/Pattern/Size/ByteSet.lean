import DocumentStore.Pattern.Size.Meter
import DocumentStore.Text.CharSet
import DocumentStore.Text.Utf8

/-!
# Sets by bytes

What the automaton of a set of characters takes. A set within ASCII is one
state with an edge for each range. Any other is read byte by byte. Read
forwards, its sequences of byte ranges are made into a tree from the end,
so that equal endings share their states (`growForward`). Read backwards,
the sequences are made one by one, and share what they have in common as
far as it is remembered (`growBackward`).
-/

namespace DocumentStore.Pattern.Size

/-- A range of bytes. -/
abbrev ByteRange := Nat × Nat

/-- The sequences of byte ranges of a set. -/
def byteSequences (s : CharSet) : List (List ByteRange) :=
  s.ranges.flatMap fun (low, high) => Utf8.sequences low high

/-! ## Forwards -/

/-- An edge from a state: the bytes it reads and the number of the state it
leads to. -/
structure Edge where
  bytes : ByteRange
  target : Nat
  deriving DecidableEq, Repr

/-- A state to be: its edges, last first, and the bytes of the edge whose
target is still open. -/
structure OpenState where
  edges : List Edge
  pending : Option ByteRange
  deriving Repr

/-- The number of places for states that may be shared. -/
def stateSlots : Nat := 10000

/-- A step that may share states with equal edges. -/
abbrev ForwardMeter := StateT (Slots (List Edge)) Meter

/-- Gives the open edge its target. -/
def OpenState.settle (s : OpenState) (target : Nat) : List Edge :=
  match s.pending with
  | none => s.edges
  | some bytes => ⟨bytes, target⟩ :: s.edges

/-- The state with the given edges, which is made unless it is remembered. -/
def stateOf (edges : List Edge) : ForwardMeter Nat := do
  let slots ← get
  let place := slots.place (edges.reverse.flatMap fun e => [e.bytes.1, e.bytes.2, e.target])
  match slots.find? place edges with
  | some number => return number
  | none =>
    let number ← newState (edgeBytes * edges.length)
    modify fun slots => slots.put place edges number
    return number

/-- Makes the states of a chain, of which each is the open target of the one
before and the last one leads to `final`; gives the first one's number. -/
def closeChain (final : Nat) : List OpenState → ForwardMeter Nat
  | [] => return final
  | s :: rest => do stateOf (s.settle (← closeChain final rest))

/-- Adds a sequence to a chain: it goes along the chain as far as the open
edges read the same bytes, and what lies beyond is closed. -/
def addSequence (final : Nat) :
    List OpenState → List ByteRange → ForwardMeter (List OpenState)
  | chain, [] => return chain
  | [], bytes => return bytes.map fun b => ⟨[], some b⟩
  | s :: rest, b :: bytes => do
    if s.pending = some b then return s :: (← addSequence final rest bytes)
    else
      let edges := s.settle (← closeChain final rest)
      return ⟨edges, some b⟩ :: bytes.map fun b => ⟨[], some b⟩

/-- Makes the automaton that reads sequences forwards. -/
def growForward (sequences : List (List ByteRange)) : Meter Unit := do
  let final ← newState 0
  let make : ForwardMeter Nat := do
    let chain ← sequences.foldlM (addSequence final) [⟨[], none⟩]
    closeChain final chain
  let _ ← make.run (.ofSize stateSlots)

/-! ## Backwards -/

/-- The number of places for states that read a range and go on to a given
state. -/
def rangeSlots : Nat := 1000

/-- A step that may share states that read the same bytes and go on to the
same state. -/
abbrev BackwardMeter := StateT (Slots (Nat × ByteRange)) Meter

/-- The state that reads a range and goes on to another state, which is made
unless it is remembered. -/
def rangeState (target : Nat) (bytes : ByteRange) : BackwardMeter Nat := do
  let slots ← get
  let place := slots.place [target, bytes.1, bytes.2]
  match slots.find? place (target, bytes) with
  | some number => return number
  | none =>
    let number ← newState 0
    modify fun slots => slots.put place (target, bytes) number
    return number

/-- Makes the automaton that reads sequences backwards: a state that branches
to each of them, and the states of each. -/
def growBackward (sequences : List (List ByteRange)) : Meter Unit := do
  grow 1 0
  let final ← newState 0
  let make : BackwardMeter Unit := sequences.forM fun bytes => do
    let _ ← bytes.foldlM rangeState final
    grow 0 branchBytes
  let _ ← make.run (.ofSize rangeSlots)

/-! ## Either way -/

/-- Whether all characters of a set are in ASCII. -/
def isAscii (s : CharSet) : Bool := s.ranges.all fun (_, high) => high < 0x80

/-- Makes the automaton of a set. -/
def growSet (backward : Bool) (s : CharSet) : Meter Unit :=
  if isAscii s then grow 2 (edgeBytes * s.ranges.length)
  else if backward then growBackward (byteSequences s)
  else growForward (byteSequences s)

end DocumentStore.Pattern.Size
