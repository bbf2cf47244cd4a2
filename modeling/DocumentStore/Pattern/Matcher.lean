import DocumentStore.Pattern.Reader
import DocumentStore.Pattern.Size.Automaton

/-!
# Matching

A pattern is run on all places of a text at once: from the set of places
where a match of it may begin to the set of places where one may end
(`ends`). Sets of places are lists in ascending order. A text matches when
any place is an end of a match begun at any place, so matching never goes
back and takes polynomial time whatever the pattern.
-/

namespace DocumentStore

namespace Pattern

/-- Two ascending lists of places in one, each place once. -/
def mergePlaces : List Nat → List Nat → List Nat
  | [], bs => bs
  | as, [] => as
  | a :: as, b :: bs =>
    if a < b then a :: mergePlaces as (b :: bs)
    else if b < a then b :: mergePlaces (a :: as) bs
    else a :: mergePlaces as bs
termination_by as bs => as.length + bs.length

/-- Runs a step up to `bound` times from `frontier`, gathering in `seen`
what is reached. -/
def reach (step : List Nat → List Nat) : (bound : Nat) → (seen frontier : List Nat) → List Nat
  | 0, seen, _ => seen
  | bound + 1, seen, frontier =>
    let next := (step frontier).filter fun i => !seen.contains i
    if next.isEmpty then seen else reach step bound (mergePlaces seen next) next

/-- Runs a step a given number of times, or until it changes nothing. -/
def iterate (step : List Nat → List Nat) : Nat → List Nat → List Nat
  | 0, places => places
  | n + 1, places =>
    let next := step places
    if next = places then places else iterate step n next

/-- Whether a place of a text is what an anchor asks for. -/
def Place.holds (p : Place) (text : Array Char) (i : Nat) : Bool :=
  let before := if i = 0 then none else text[i - 1]?
  let after := text[i]?
  match p with
  | .textStart => before.isNone
  | .textEnd => after.isNone
  | .lineStart eitherEnd =>
    before.isNone || before == some '\n'
      || (eitherEnd && before == some '\r' && after != some '\n')
  | .lineEnd eitherEnd =>
    after.isNone
      || (if eitherEnd then after == some '\r' || (after == some '\n' && before != some '\r')
        else after == some '\n')
  | .words unicode edge =>
    let word := if unicode then wordSet else asciiWordSet
    edge.allows (before.any word.contains) (after.any word.contains)

/-- Whether a text has the given characters at a place. -/
def hasAt (text : Array Char) : List Char → (i : Nat) → Bool
  | [], _ => true
  | c :: cs, i => text[i]? == some c && hasAt text cs (i + 1)

mutual

/-- The ends of the matches that begin at the given places. -/
def ends (text : Array Char) : Pattern → List Nat → List Nat
  | .empty, places => places
  | .text cs, places =>
    places.filterMap fun i => if hasAt text cs i then some (i + cs.length) else none
  | .set s _, places =>
    places.filterMap fun i => if text[i]?.any s.contains then some (i + 1) else none
  | .place p, places => places.filter (p.holds text)
  | .group p, places => ends text p places
  | .sequence ps, places => sequenceEnds text ps places
  | .choice ps, places => choiceEnds text ps places
  | .repeated p least most _, places =>
    let start := iterate (ends text p) least places
    let bound := match most with
      | none => text.size + 1
      | some most => min (most - least) (text.size + 1)
    reach (ends text p) bound start start

/-- The ends of the matches of parts one behind the other. -/
def sequenceEnds (text : Array Char) : List Pattern → List Nat → List Nat
  | [], places => places
  | p :: ps, places => sequenceEnds text ps (ends text p places)

/-- The ends of the matches of any of several branches. -/
def choiceEnds (text : Array Char) : List Pattern → List Nat → List Nat
  | [], _ => []
  | p :: ps, places => mergePlaces (ends text p places) (choiceEnds text ps places)

end

/-- Whether some part of a text is a match. -/
def isMatch (p : Pattern) (text : String) : Bool :=
  let chars := text.toList.toArray
  !(ends chars p (List.range (chars.size + 1))).isEmpty

/-- **The pattern a text denotes**, if it denotes one. -/
def ofSource? (source : String) : Option Pattern := do (← Pattern.read? source).pattern?

end Pattern

end DocumentStore
