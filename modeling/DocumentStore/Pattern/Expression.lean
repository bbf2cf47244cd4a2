import DocumentStore.Text.CharSet

/-!
# Expressions — patterns as written

What a pattern is made of once its text has been taken apart, before its
flags are given a meaning. Classes nest, and combine by set operations;
flags may be set for the rest of a group or for a group of their own.
`nesting` measures how deep a pattern's parts lie in each other.
-/

namespace DocumentStore.Pattern

/-- The letters of the flags. -/
inductive Flag where
  | ignoreCase
  | multiLine
  | dotAll
  | swapGreed
  | unicode
  | lineFeeds
  | verbose
  deriving DecidableEq, Repr

/-- Flags turned on and flags turned off. -/
structure FlagChange where
  on : List Flag
  off : List Flag
  deriving DecidableEq, Repr

namespace FlagChange

/-- What becomes of one flag: on, off or as it was. -/
def after (change : FlagChange) (flag : Flag) (before : Bool) : Bool :=
  if change.on.contains flag then true
  else if change.off.contains flag then false
  else before

end FlagChange

/-- A character, and whether it was written as a byte of two hexadecimal
digits. -/
structure Literal where
  char : Char
  isByte : Bool
  deriving DecidableEq, Repr

/-- The classes with letters of their own. -/
inductive Shorthand where
  | digit
  | blank
  | word
  deriving DecidableEq, Repr

/-- A property: by one name, or by the name of a property and of a value. -/
inductive PropertyName where
  | single (name : List Char)
  | valued (property value : List Char)
  deriving DecidableEq, Repr

/-- The set operations on classes. -/
inductive SetOperation where
  | inter
  | diff
  | symmDiff
  deriving DecidableEq, Repr

/-- A class, or a part of one. -/
inductive CharClass where
  | literal (l : Literal)
  | range (low high : Literal)
  | ascii (negated : Bool) (ranges : List (Nat × Nat))
  | shorthand (negated : Bool) (s : Shorthand)
  | property (negated : Bool) (p : PropertyName)
  | bracket (negated : Bool) (body : CharClass)
  | union (items : List CharClass)
  | operation (op : SetOperation) (left right : CharClass)
  deriving Repr

/-- What a pattern can ask of a place in the text. -/
inductive Anchor where
  | lineStart
  | lineEnd
  | textStart
  | textEnd
  | wordBoundary
  | noWordBoundary
  | wordStart
  | wordEnd
  | wordStartHalf
  | wordEndHalf
  deriving DecidableEq, Repr

/-- A pattern as written. -/
inductive Expression where
  | literal (l : Literal)
  | anyChar
  | anchor (a : Anchor)
  | oneOf (c : CharClass)
  | flags (change : FlagChange)
  /-- A group, which may be one whose match is to be told. -/
  | group (isTold : Bool) (change : FlagChange) (body : Expression)
  /-- A repetition, which may be one that prefers few over many. -/
  | repeated (body : Expression) (least : Nat) (most : Option Nat) (isLazy : Bool)
  | sequence (parts : List Expression)
  | choice (branches : List Expression)
  deriving Repr

namespace CharClass

/-- The class of gathered items; a single one stands for itself. -/
def ofItems : List CharClass → CharClass
  | [item] => item
  | items => .union items

mutual

/-- How deep the parts of a class lie in each other. -/
def nesting : CharClass → Nat
  | .bracket _ body => nesting body + 1
  | .union [] => 0
  | .union (item :: items) => max (nesting item) (itemsNesting items) + 1
  | .operation _ left right => max (nesting left) (nesting right) + 1
  | _ => 0

/-- The depth of the deepest item. -/
def itemsNesting : List CharClass → Nat
  | [] => 0
  | item :: rest => max (nesting item) (itemsNesting rest)

end

end CharClass

namespace Expression

/-- The pattern of parts in sequence; a single one stands for itself. -/
def ofParts : List Expression → Expression
  | [part] => part
  | parts => .sequence parts

/-- The pattern of branches; a single one stands for itself. -/
def ofBranches : List Expression → Expression
  | [branch] => branch
  | branches => .choice branches

mutual

/-- How deep the parts of a pattern lie in each other. -/
def nesting : Expression → Nat
  | .oneOf c => c.nesting
  | .group _ _ body => nesting body + 1
  | .repeated body _ _ _ => nesting body + 1
  | .sequence [] => 0
  | .sequence (part :: parts) => max (nesting part) (partsNesting parts) + 1
  | .choice [] => 0
  | .choice (branch :: branches) => max (nesting branch) (partsNesting branches) + 1
  | _ => 0

/-- The depth of the deepest part. -/
def partsNesting : List Expression → Nat
  | [] => 0
  | part :: rest => max (nesting part) (partsNesting rest)

end

end Expression

end DocumentStore.Pattern
