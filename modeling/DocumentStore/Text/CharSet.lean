import DocumentStore.Numeric.Numeral

/-!
# Sets of characters

A set of characters as a list of ranges of code points, in order and apart
from each other, closed under the set operations. The tables of the
Unicode standard are written as such ranges in hexadecimal
(`CharSet.ofTable`).
-/

namespace DocumentStore

/-- The characters in any of the ranges, both ends included. -/
structure CharSet where
  ranges : List (Nat × Nat)
  deriving DecidableEq, Repr

namespace CharSet

/-- The last code point. -/
def last : Nat := 0x10FFFF

/-- No character. -/
def empty : CharSet := ⟨[]⟩

/-- Every character. -/
def all : CharSet := ⟨[(0, last)]⟩

/-- The characters from one code point through another. -/
def range (low high : Nat) : CharSet := ⟨[(low, high)]⟩

/-- One character. -/
def single (c : Char) : CharSet := range c.toNat c.toNat

/-- Membership of a code point. -/
def has (s : CharSet) (n : Nat) : Bool := s.ranges.any fun (low, high) => low ≤ n && n ≤ high

/-- Membership of a character. -/
def contains (s : CharSet) (c : Char) : Bool := s.has c.toNat

/-- Joins ranges that touch, in a list in order of their lower ends. -/
def join : List (Nat × Nat) → List (Nat × Nat)
  | [] => []
  | [r] => [r]
  | (low, high) :: (low', high') :: rest =>
    if low' ≤ high + 1 then join ((low, max high high') :: rest)
    else (low, high) :: join ((low', high') :: rest)
termination_by rs => rs.length

/-- The set of any list of ranges. -/
def ofRanges (ranges : List (Nat × Nat)) : CharSet :=
  ⟨join ((ranges.filter fun (low, high) => low ≤ high).mergeSort fun a b => a.1 ≤ b.1)⟩

/-- The characters in either set. -/
def union (s t : CharSet) : CharSet := ofRanges (s.ranges ++ t.ranges)

/-- The gaps between ranges in order, from `start` on. -/
def gaps (start : Nat) : List (Nat × Nat) → List (Nat × Nat)
  | [] => if start ≤ last then [(start, last)] else []
  | (low, high) :: rest =>
    if start < low then (start, low - 1) :: gaps (high + 1) rest else gaps (high + 1) rest

/-- Whether a code point is a surrogate, which no character has. -/
def isSurrogate (n : Nat) : Bool := 0xD800 ≤ n && n ≤ 0xDFFF

/-- A range with ends that are characters: its first character and its
last one. A range of surrogates alone comes out with its ends crossed. -/
def characterEnds (r : Nat × Nat) : Nat × Nat :=
  (if isSurrogate r.1 then 0xE000 else r.1, if isSurrogate r.2 then 0xD7FF else r.2)

/-- The characters not in a set. A gap is written by the characters next to
its borders, in order; where nothing but surrogates lies between two ranges
these are the borders themselves. -/
def complement (s : CharSet) : CharSet :=
  ⟨(gaps 0 s.ranges).map fun gap =>
    let (a, b) := characterEnds gap
    (min a b, max a b)⟩

/-- The common part of two lists of ranges in order. -/
def overlaps : List (Nat × Nat) → List (Nat × Nat) → List (Nat × Nat)
  | [], _ => []
  | _, [] => []
  | a :: as, b :: bs =>
    let rest := if a.2 < b.2 then overlaps as (b :: bs) else overlaps (a :: as) bs
    if max a.1 b.1 ≤ min a.2 b.2 then (max a.1 b.1, min a.2 b.2) :: rest else rest
termination_by as bs => as.length + bs.length

/-- The characters in both sets. -/
def inter (s t : CharSet) : CharSet := ⟨overlaps s.ranges t.ranges⟩

/-- The characters in the first set alone. -/
def diff (s t : CharSet) : CharSet :=
  ⟨((overlaps s.ranges (gaps 0 t.ranges)).map characterEnds).filter fun (low, high) =>
    low ≤ high⟩

/-- The characters in just one of two sets. -/
def symmDiff (s t : CharSet) : CharSet := (s.union t).diff (s.inter t)

/-- One entry of a table: a code point, or two with a dash between. -/
def ofEntry? (entry : String) : Option (Nat × Nat) :=
  match entry.splitOn "-" with
  | [single] => (hexValue? single.toList).map fun n => (n, n)
  | [low, high] => do return (← hexValue? low.toList, ← hexValue? high.toList)
  | _ => none

/-- The entries of a table, which stand between blanks and line ends. -/
def tableEntries (table : String) : List String :=
  (table.splitOn "\n").flatMap fun line => (line.splitOn " ").filter (· != "")

/-- The set written as a table of hexadecimal entries. -/
def ofTable (table : String) : CharSet := ofRanges ((tableEntries table).filterMap ofEntry?)

end CharSet

end DocumentStore
