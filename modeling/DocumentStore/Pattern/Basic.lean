import DocumentStore.Pattern.Expression
import DocumentStore.Pattern.Property
import DocumentStore.Pattern.CaseFolding

/-!
# Patterns

A pattern with its flags worked in: texts, sets of characters, anchors,
groups, sequences, choices and repetitions. Patterns are put together by
functions that keep them reduced (`ofSet`, `ofSequence`, `ofChoice`,
`ofRepeated`): texts in sequence are one text, choices of characters are
one set, what branches begin with in common stands before the choice, and
matching nothing more than once is matching it once.

`Expression.meaning?` gives a written pattern its meaning. Flags hold from
where they are set to the end of their group, across its branches. Without
the unicode flag the classes are those of ASCII, and whatever would match
a part of a character is refused.
-/

namespace DocumentStore

namespace Pattern

/-- The flags in force. -/
structure Flags where
  ignoreCase : Bool
  multiLine : Bool
  dotAll : Bool
  swapGreed : Bool
  unicode : Bool
  lineFeeds : Bool
  deriving DecidableEq, Repr

namespace Flags

/-- The flags a pattern starts with. -/
def initial : Flags := ⟨false, false, false, false, true, false⟩

/-- The flags in force after a change of them. -/
def change (f : Flags) (c : FlagChange) : Flags where
  ignoreCase := c.after .ignoreCase f.ignoreCase
  multiLine := c.after .multiLine f.multiLine
  dotAll := c.after .dotAll f.dotAll
  swapGreed := c.after .swapGreed f.swapGreed
  unicode := c.after .unicode f.unicode
  lineFeeds := c.after .lineFeeds f.lineFeeds

/-- Adds the other cases of a set's characters if case does not count. -/
def closeCase (f : Flags) (s : CharSet) : CharSet :=
  if f.ignoreCase then (if f.unicode then s.caseClosure else s.asciiCaseClosure) else s

/-- The complement, if asked for; without the unicode flag it would hold
parts of characters and is refused. -/
def negate? (f : Flags) (negated : Bool) (s : CharSet) : Option CharSet :=
  if !negated then some s else if f.unicode then some s.complement else none

/-- The word characters. -/
def word (f : Flags) : CharSet :=
  if f.unicode then wordSet else asciiWordSet

end Flags

/-- Where a place lies to the words around it. -/
inductive WordEdge where
  | border
  | noBorder
  | start
  | stop
  | startHalf
  | stopHalf
  deriving DecidableEq, Repr

/-- Which of a place's two neighbours may be word characters. -/
def WordEdge.allows : WordEdge → (before after : Bool) → Bool
  | .border, before, after => before != after
  | .noBorder, before, after => before == after
  | .start, before, after => !before && after
  | .stop, before, after => before && !after
  | .startHalf, before, _ => !before
  | .stopHalf, _, after => !after

/-- What an anchor asks of a place between two characters. -/
inductive Place where
  | textStart
  | textEnd
  /-- Behind a line feed, or behind either end of a line. -/
  | lineStart (eitherEnd : Bool)
  | lineEnd (eitherEnd : Bool)
  /-- At an edge of words, whose characters are those of Unicode or of
  ASCII. -/
  | words (unicode : Bool) (edge : WordEdge)
  deriving DecidableEq, Repr

end Pattern

/-- A pattern. -/
inductive Pattern where
  | empty
  | text (chars : List Char)
  /-- A set, and whether it was written under the unicode flag. -/
  | set (s : CharSet) (unicode : Bool)
  | place (p : Pattern.Place)
  /-- A repetition, which prefers many over few if it is greedy. -/
  | repeated (body : Pattern) (least : Nat) (most : Option Nat) (isGreedy : Bool)
  /-- A group whose match is to be told. -/
  | group (body : Pattern)
  | sequence (parts : List Pattern)
  | choice (branches : List Pattern)

namespace Pattern

/-! ## Lengths and ends -/

mutual

/-- Whether a pattern only matches empty texts, whatever its anchors ask. -/
def isEmptyOnly : Pattern → Bool
  | .empty => true
  | .text _ => false
  | .set _ _ => false
  | .place _ => true
  | .repeated p _ most _ => most.isSome && p.isEmptyOnly
  | .group p => p.isEmptyOnly
  | .sequence ps => areEmptyOnly ps
  | .choice ps => areEmptyOnly ps

/-- Whether all of several patterns only match empty texts. -/
def areEmptyOnly : List Pattern → Bool
  | [] => true
  | p :: ps => p.isEmptyOnly && areEmptyOnly ps

end

mutual

/-- A length below which nothing matches, in characters; `none` if there is
an empty set among the parts that count. -/
def minLength? : Pattern → Option Nat
  | .empty => some 0
  | .text cs => some cs.length
  | .set s _ => if s.ranges.isEmpty then none else some 1
  | .place _ => some 0
  | .repeated p least _ _ => p.minLength?.map (· * least)
  | .group p => p.minLength?
  | .sequence ps => sequenceMinLength? ps
  | .choice ps => choiceMinLength? ps

/-- The sum of the least lengths of parts. -/
def sequenceMinLength? : List Pattern → Option Nat
  | [] => some 0
  | p :: ps => do return (← p.minLength?) + (← sequenceMinLength? ps)

/-- The smallest of the least lengths of branches. -/
def choiceMinLength? : List Pattern → Option Nat
  | [] => none
  | [p] => p.minLength?
  | p :: ps => do return min (← p.minLength?) (← choiceMinLength? ps)

end

mutual

/-- Whether a match can only begin, or end, where `q` holds, because the
pattern says so there. -/
def isBoundBy (q : Place) (atEnd : Bool) : Pattern → Bool
  | .empty => false
  | .text _ => false
  | .set _ _ => false
  | .place p => p == q
  | .repeated p least _ _ => least != 0 && p.isBoundBy q atEnd
  | .group p => p.isBoundBy q atEnd
  | .sequence ps => if atEnd then sequenceEndIsBoundBy q ps else sequenceStartIsBoundBy q ps
  | .choice ps => areBoundBy q atEnd ps

/-- Whether parts begin where `q` holds: one does that comes behind empty
matches only. -/
def sequenceStartIsBoundBy (q : Place) : List Pattern → Bool
  | [] => false
  | p :: ps => p.isBoundBy q false || (p.isEmptyOnly && sequenceStartIsBoundBy q ps)

/-- Whether parts end where `q` holds: one does that comes before empty
matches only. -/
def sequenceEndIsBoundBy (q : Place) : List Pattern → Bool
  | [] => false
  | p :: ps => (areEmptyOnly ps && p.isBoundBy q true) || sequenceEndIsBoundBy q ps

/-- Whether all branches are bound. -/
def areBoundBy (q : Place) (atEnd : Bool) : List Pattern → Bool
  | [] => true
  | p :: ps => p.isBoundBy q atEnd && areBoundBy q atEnd ps

end

/-! ## Sameness -/

mutual

/-- Whether two patterns are made the same way. Two groups never are, since
their matches are told apart. -/
def isSame : Pattern → Pattern → Bool
  | .empty, .empty => true
  | .text cs, .text ds => cs == ds
  | .set s u, .set t v => s == t && u == v
  | .place p, .place q => p == q
  | .repeated p least most isGreedy, .repeated q least' most' isGreedy' =>
    least == least' && most == most' && isGreedy == isGreedy' && p.isSame q
  | .sequence ps, .sequence qs => areSame ps qs
  | .choice ps, .choice qs => areSame ps qs
  | _, _ => false

/-- Whether two lists of patterns are the same, one by one. -/
def areSame : List Pattern → List Pattern → Bool
  | [], [] => true
  | p :: ps, q :: qs => p.isSame q && areSame ps qs
  | _, _ => false

end

/-! ## Putting patterns together -/

/-- The pattern that matches nothing, not even the empty text. -/
def never : Pattern := .set .empty false

/-- The pattern of a set: a single character is a text. -/
def ofSet (unicode : Bool) (s : CharSet) : Pattern :=
  match s.ranges with
  | [] => never
  | [(low, high)] => if low = high then .text [Char.ofNat low] else .set s unicode
  | _ => .set s unicode

/-- The parts of a pattern in sequence. -/
def parts : Pattern → List Pattern
  | .empty => []
  | .sequence ps => ps
  | p => [p]

/-- The branches of a pattern. -/
def alternatives : Pattern → List Pattern
  | .choice ps => ps
  | p => [p]

/-- Puts a part before others; two texts become one. -/
def before : Pattern → List Pattern → List Pattern
  | .text cs, .text ds :: ps => .text (cs ++ ds) :: ps
  | p, ps => p :: ps

/-- The pattern of parts in sequence. -/
def ofSequence (ps : List Pattern) : Pattern :=
  match (ps.flatMap parts).foldr before [] with
  | [] => .empty
  | [p] => p
  | ps => .sequence ps

/-- The character of a text of one. -/
def char? : Pattern → Option Char
  | .text [c] => some c
  | _ => none

/-- The set of a pattern that is one. -/
def set? : Pattern → Option CharSet
  | .set s _ => some s
  | _ => none

/-- The set that several branches amount to: if all are characters or all
are sets. -/
def commonSet? (ps : List Pattern) : Option CharSet :=
  match ps.mapM char? with
  | some cs => some (.ofRanges (cs.map fun c => (c.toNat, c.toNat)))
  | none => (ps.mapM set?).map fun sets => .ofRanges (sets.flatMap (·.ranges))

/-- The pattern of branches: a set if they amount to one. -/
def ofBranches (ps : List Pattern) : Pattern :=
  match ps with
  | [] => never
  | [p] => p
  | ps =>
    match commonSet? ps with
    | some s => ofSet true s
    | none => .choice ps

/-- How many patterns two lists begin with in common. -/
def commonLength : List Pattern → List Pattern → Nat
  | p :: ps, q :: qs => if p.isSame q then commonLength ps qs + 1 else 0
  | _, _ => 0

/-- The parts of a sequence, which a pattern must be. -/
def sequenceParts? : Pattern → Option (List Pattern)
  | .sequence ps => some ps
  | _ => none

/-- What branches begin with in common and the rest of each, if all are
sequences and there is something in common. -/
def sharedStart? (ps : List Pattern) : Option (List Pattern × List (List Pattern)) :=
  match ps.mapM sequenceParts? with
  | some (first :: others) =>
    let n := others.foldl (fun n parts => min n (commonLength first parts)) first.length
    if n = 0 then none else some (first.take n, (first :: others).map (·.drop n))
  | _ => none

/-- The pattern of a choice. -/
def ofChoice (ps : List Pattern) : Pattern :=
  let flat := ps.flatMap alternatives
  match ofBranches flat with
  | .choice flat =>
    match sharedStart? flat with
    | some (start, rests) =>
      ofSequence (start ++ [ofBranches ((rests.map ofSequence).flatMap alternatives)])
    | none => .choice flat
  | p => p

/-- The pattern of a repetition. -/
def ofRepeated (p : Pattern) (least : Nat) (most : Option Nat) (isGreedy : Bool) : Pattern :=
  let (least, most) :=
    if p.isEmptyOnly then (min least 1, some (min (most.getD 1) 1)) else (least, most)
  match least, most with
  | 0, some 0 => .empty
  | 1, some 1 => p
  | least, most => .repeated p least most isGreedy

/-! ## Meaning of classes -/

/-- The code point a literal stands for in a class. -/
def Literal.code? (l : Literal) (f : Flags) : Option Nat :=
  if f.unicode || l.char.toNat < 0x80 then some l.char.toNat else none

/-- The characters of a shorthand. -/
def Shorthand.set (s : Shorthand) (f : Flags) : CharSet :=
  match s with
  | .digit => if f.unicode then digitSet else .range 0x30 0x39
  | .blank => if f.unicode then blankSet else asciiBlankSet
  | .word => f.word

/-- The characters of a property, if there is one of that name. -/
def PropertyName.set? : PropertyName → Option CharSet
  | .single name => namedSet? (reduceName name)
  | .valued property value => valueSet? (reduceName property) (reduceName value)

/-- The set an operation makes of two. -/
def SetOperation.apply : SetOperation → CharSet → CharSet → CharSet
  | .inter => .inter
  | .diff => .diff
  | .symmDiff => .symmDiff

mutual

/-- The characters of a class under the flags in force. -/
def CharClass.set? (f : Flags) : CharClass → Option CharSet
  | .literal l => do
    let n ← l.code? f
    return .range n n
  | .range low high => return .range (← low.code? f) (← high.code? f)
  | .ascii negated ranges => f.negate? negated (f.closeCase ⟨ranges⟩)
  | .shorthand negated s => f.negate? negated (s.set f)
  | .property negated p => do
    if !f.unicode then none
    f.negate? negated (f.closeCase (← p.set?))
  | .bracket negated body => do f.negate? negated (f.closeCase (← CharClass.set? f body))
  | .union items => CharClass.unionSet? f items
  | .operation op left right => do
    let l ← CharClass.set? f left
    let r ← CharClass.set? f right
    return op.apply (f.closeCase l) (f.closeCase r)

/-- The characters of any of several classes. -/
def CharClass.unionSet? (f : Flags) : List CharClass → Option CharSet
  | [] => some .empty
  | item :: rest => do return (← CharClass.set? f item).union (← CharClass.unionSet? f rest)

end

/-! ## Meaning of expressions -/

/-- The characters a dot matches. -/
def anySet? (f : Flags) : Option CharSet :=
  if !f.unicode then none
  else if f.dotAll then some .all
  else if f.lineFeeds then some (CharSet.complement ⟨[(0x0A, 0x0A), (0x0D, 0x0D)]⟩)
  else some (CharSet.complement ⟨[(0x0A, 0x0A)]⟩)

/-- What an anchor asks under the flags in force. -/
def Anchor.place (a : Anchor) (f : Flags) : Place :=
  match a with
  | .lineStart => if f.multiLine then .lineStart f.lineFeeds else .textStart
  | .lineEnd => if f.multiLine then .lineEnd f.lineFeeds else .textEnd
  | .textStart => .textStart
  | .textEnd => .textEnd
  | .wordBoundary => .words f.unicode .border
  | .noWordBoundary => .words f.unicode .noBorder
  | .wordStart => .words f.unicode .start
  | .wordEnd => .words f.unicode .stop
  | .wordStartHalf => .words f.unicode .startHalf
  | .wordEndHalf => .words f.unicode .stopHalf

mutual

/-- The pattern of an expression and the flags in force behind it. -/
def Expression.meaning? : Flags → Expression → Option (Pattern × Flags)
  | f, .literal l =>
    if !f.unicode && l.isByte && 0x80 ≤ l.char.toNat then none
    else some (.ofSet f.unicode (f.closeCase (.single l.char)), f)
  | f, .anyChar => (anySet? f).map fun s => (.ofSet true s, f)
  | f, .anchor a => some (.place (a.place f), f)
  | f, .oneOf c => (c.set? f).map fun s => (.ofSet f.unicode s, f)
  | f, .flags change => some (.empty, f.change change)
  | f, .group isTold change body =>
    (Expression.meaning? (f.change change) body).map fun (p, _) =>
      (if isTold then .group p else p, f)
  | f, .repeated body least most isLazy =>
    (Expression.meaning? f body).map fun (p, f) =>
      (.ofRepeated p least most (isLazy == f.swapGreed), f)
  | f, .sequence parts =>
    (Expression.meanings? f parts).map fun (ps, f) => (.ofSequence ps, f)
  | f, .choice branches =>
    (Expression.meanings? f branches).map fun (ps, f) => (.ofChoice ps, f)

/-- The patterns of several expressions, the flags behind each in force for
the next. -/
def Expression.meanings? : Flags → List Expression → Option (List Pattern × Flags)
  | f, [] => some ([], f)
  | f, e :: rest => do
    let (p, f) ← Expression.meaning? f e
    let (ps, f) ← Expression.meanings? f rest
    return (p :: ps, f)

end

end Pattern

end DocumentStore
