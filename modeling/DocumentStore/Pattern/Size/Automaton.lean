import DocumentStore.Pattern.Basic
import DocumentStore.Pattern.Size.ByteSet
import DocumentStore.Pattern.Size.TextTree

/-!
# The automaton of a pattern

What the automaton of a pattern takes, part by part, with repetitions
written out. A pattern is made into two automata, one that reads texts
forwards and knows the groups whose matches are to be told, and one that
reads them backwards; it is accepted if both fit (`Pattern.fits`).

A part is left by its last state. Only a state that forks takes more bytes
for being led on, so making a part answers whether its last state forks.
-/

namespace DocumentStore.Pattern

namespace Size

/-- Leads on from the last state of a part. -/
def leave (forks : Bool) : Meter Unit := if forks then grow 0 branchBytes else pure ()

/-- Makes a part again and again, each behind the one before. -/
def growCopies (part : Meter Bool) : Nat → (forks : Bool) → Meter Bool
  | 0, forks => return forks
  | n + 1, forks => do
    let next ← part
    leave forks
    growCopies part n next

/-- Makes a part a given number of times. -/
def growTimes (part : Meter Bool) : Nat → Meter Bool
  | 0 => do
    grow 1 0
    return false
  | n + 1 => do growCopies part n (← part)

/-- Makes a part up to a given number of times, each time being one more
that may be left out. -/
def growOptional (part : Meter Bool) : Nat → (forks : Bool) → Meter Bool
  | 0, forks => return forks
  | n + 1, forks => do
    grow 1 (2 * branchBytes)
    let next ← part
    leave forks
    growOptional part n next

/-- Makes a repetition of a part. -/
def growRepeated (part : Meter Bool) (mayBeEmpty : Bool) (least : Nat) (most : Option Nat) :
    Meter Bool :=
  match least, most with
  | 0, some 1 => do
    grow 1 (2 * branchBytes)
    let forks ← part
    grow 1 0
    leave forks
    return false
  | 0, none =>
    if mayBeEmpty then do
      let forks ← part
      leave forks
      grow 3 (4 * branchBytes)
      return false
    else do
      grow 1 branchBytes
      let forks ← part
      leave forks
      return true
  | n + 1, none => do
    let forks ← growTimes part (n + 1)
    leave forks
    grow 1 branchBytes
    return true
  | least, some most => do
    let forks ← growTimes part least
    if most = least then return forks
    grow 1 0
    let forks ← growOptional part (most - least) forks
    leave forks
    return false

/-- The bytes of a text. -/
def textBytes (cs : List Char) : List Nat := cs.flatMap fun c => Utf8.encode c.toNat

/-- The characters of a pattern that is a text. -/
def text? : Pattern → Option (List Char)
  | .text cs => some cs
  | _ => none

mutual

/-- Makes the automaton of a pattern. -/
def growPattern (backward : Bool) : Pattern → Meter Bool
  | .empty => do
    grow 1 0
    return false
  | .text cs => do
    grow (textBytes cs).length 0
    return false
  | .set s _ => do
    growSet backward s
    return false
  | .place _ => do
    grow 1 0
    return false
  | .repeated p least most _ =>
    growRepeated (growPattern backward p) (p.minLength?.getD 0 == 0) least most
  | .group p =>
    if backward then growPattern backward p
    else do
      grow 1 0
      let forks ← growPattern backward p
      grow 1 0
      leave forks
      return false
  | .sequence ps => if backward then growFromLast ps else growFromFirst ps
  | .choice ps =>
    match ps.mapM text? with
    | some texts => do
      let bytes := texts.map textBytes
      growTexts (if backward then bytes.map List.reverse else bytes)
      return false
    | none => do
      growBranches backward 0 ps
      return false

/-- Makes parts from the first one on. -/
def growFromFirst : List Pattern → Meter Bool
  | [] => return false
  | [p] => growPattern false p
  | p :: ps => do
    let forks ← growPattern false p
    leave forks
    growFromFirst ps

/-- Makes parts from the last one on. -/
def growFromLast : List Pattern → Meter Bool
  | [] => return false
  | [p] => growPattern true p
  | p :: ps => do
    let forks ← growFromLast ps
    leave forks
    growPattern true p

/-- Makes branches; the states in which they part and meet come behind the
second one. -/
def growBranches (backward : Bool) (made : Nat) : List Pattern → Meter Unit
  | [] => return
  | p :: ps => do
    let forks ← growPattern backward p
    leave forks
    grow (if made = 1 then 2 else 0) branchBytes
    growBranches backward (made + 1) ps

end

/-- Makes the automaton of a whole pattern. Unless a match must begin where
the text does, in the direction of reading, a loop over any bytes comes
before it; a last state tells the match. -/
def growWhole (backward : Bool) (p : Pattern) : Meter Unit := do
  let isAnchored := p.isBoundBy (if backward then .textEnd else .textStart) backward
  if isAnchored then grow 1 0 else grow 3 (edgeBytes + 2 * branchBytes)
  if backward then
    let forks ← growPattern backward p
    grow 1 0
    leave forks
  else
    let _ ← growPattern backward (.group p)
    grow 1 0

end Size

/-- Whether the automata of a pattern fit into the space allowed. -/
def fits (p : Pattern) : Bool :=
  [false, true].all fun backward => ((Size.growWhole backward p).run ⟨0, 0⟩).isSome

/-- The meaning of a whole written pattern, which must fit. -/
def Expression.pattern? (e : Expression) : Option Pattern :=
  ((e.meaning? .initial).map Prod.fst).filter fits

end DocumentStore.Pattern
