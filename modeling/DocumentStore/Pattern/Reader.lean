import DocumentStore.Pattern.Expression
import DocumentStore.Pattern.GroupName
import DocumentStore.Text.Blank

/-!
# Reading patterns

Takes the text of a pattern apart. The reader walks the text once,
keeping what is left of it, whether blanks and comments count for nothing
at the moment, and the names of the groups met so far (`Scan`). It refuses
whatever has no meaning: an operator with nothing before it, a group or
class that is not closed, counts out of order, unknown escapes, flags and
names, look-around and back-references. Properties are only named here;
whether there is one of that name is asked when the pattern is given its
meaning.
-/

namespace DocumentStore.Pattern

/-- Where the reader stands. -/
structure Position where
  rest : List Char
  verbose : Bool
  names : List (List Char)

/-- A step of the reader, which may refuse. -/
abbrev Scan := StateT Position Option

/-- Drops the blanks and comments in front of a text. -/
def dropComments : (inComment : Bool) → List Char → List Char
  | _, [] => []
  | true, c :: rest => dropComments (c != '\n') rest
  | false, c :: rest =>
    if isBlank c then dropComments false rest
    else if c == '#' then dropComments true rest
    else c :: rest

namespace Scan

/-- Refuses the text. -/
def refuse {α : Type} : Scan α := fun _ => none

/-- What is left of the text. -/
def rest : Scan (List Char) := do return (← get).rest

/-- The next character, if there is one. -/
def peek? : Scan (Option Char) := do return (← get).rest.head?

/-- The next character; refuses at the end. -/
def peek : Scan Char := do
  match ← peek? with
  | some c => return c
  | none => refuse

/-- Steps over one character. -/
def advance : Scan Unit := modify fun p => { p with rest := p.rest.drop 1 }

/-- Steps over blanks and comments where they count for nothing. -/
def skip : Scan Unit :=
  modify fun p => if p.verbose then { p with rest := dropComments false p.rest } else p

/-- Steps over one character and what counts for nothing behind it. -/
def advanceSkip : Scan Unit := do advance; skip

/-- Steps over a character and refuses at the end of the text. -/
def advanceOn : Scan Unit := do
  advanceSkip
  let _ ← peek

/-- Takes a text if it comes next. -/
def take? (text : List Char) : Scan Bool := do
  if text.isPrefixOf (← rest) then
    modify fun p => { p with rest := p.rest.drop text.length }
    return true
  else return false

/-- Takes a character that must come next. -/
def expect (c : Char) : Scan Unit := do
  if (← peek?) = some c then advance else refuse

/-- Takes characters as long as they pass, stepping over what counts for
nothing between them. -/
def takeWhile (pass : Char → Bool) : (bound : Nat) → Scan (List Char)
  | 0 => return []
  | bound + 1 => do
    match ← peek? with
    | some c =>
      if pass c then
        advanceSkip
        return c :: (← takeWhile pass bound)
      else return []
    | none => return []

/-- How many steps the rest of the text allows. -/
def bound : Scan Nat := do return (← rest).length + 1

end Scan

open Scan

/-! ## Counts -/

/-- A decimal number with blanks around it, `none` if there are no digits;
refuses what does not fit in 32 bits. -/
def count? : Scan (Option Nat) := do
  modify fun p => { p with rest := p.rest.dropWhile isBlank }
  let digits ← takeWhile Char.isDigit (← bound)
  let _ ← takeWhile isBlank (← bound)
  if digits.isEmpty then return none
  let n := digitsValue digits 0
  if n < 4294967296 then return some n else refuse

/-- The counts between braces, the opening brace being next. -/
def counts : Scan (Nat × Option Nat) := do
  advanceOn
  let first ← count?
  let c ← peek
  let range ←
    if c == ',' then
      advanceOn
      match first with
      | none => refuse
      | some least =>
        if (← peek) == '\x7d' then pure (least, none)
        else
          match ← count? with
          | some most => pure (least, some most)
          | none => refuse
    else
      match first with
      | some n => pure (n, some n)
      | none => refuse
  expect '\x7d'
  skip
  match range with
  | (least, some most) => if least ≤ most then return range else refuse
  | _ => return range

/-- Takes the mark that turns an operator's greed around, if it is there. -/
def laziness : Scan Bool := take? ['?']

/-! ## Escapes -/

/-- What an escape stands for. -/
inductive Escaped where
  | literal (l : Literal)
  | anchor (a : Anchor)
  | set (c : CharClass)

/-- A character by its code point, which must be one. -/
def charOf (code : Nat) : Scan Char :=
  if code < 0xD800 ∨ (0xE000 ≤ code ∧ code < 0x110000) then return Char.ofNat code else refuse

/-- A given number of hexadecimal digits, blanks between them counting for
nothing where they do. -/
def hexDigits : Nat → Scan (List Char)
  | 0 => return []
  | n + 1 => do
    let c ← peek
    if (hexDigit? c).isNone then refuse
    advanceSkip
    return c :: (← hexDigits n)

/-- A character by hexadecimal digits, as many as its letter asks for or
any number between braces; the letter is next. -/
def hexadecimal : Scan Literal := do
  let letter ← peek
  advanceOn
  if (← peek) == '\x7b' then
    advanceOn
    let digits ← takeWhile (· != '\x7d') (← bound)
    expect '\x7d'
    skip
    match hexValue? digits with
    | some n => return ⟨← charOf n, false⟩
    | none => refuse
  else
    let length := if letter == 'x' then 2 else if letter == 'u' then 4 else 8
    match hexValue? (← hexDigits length) with
    | some n => return ⟨← charOf n, letter == 'x'⟩
    | none => refuse

/-- Splits a text at the first occurrence of another. -/
def splitAt? (mark : List Char) : List Char → Option (List Char × List Char)
  | [] => none
  | c :: text =>
    if mark.isPrefixOf (c :: text) then some ([], (c :: text).drop mark.length)
    else (splitAt? mark text).map fun (before, after) => (c :: before, after)

/-- A property by one letter or by a name between braces; the letter of
the escape is next. -/
def property : Scan CharClass := do
  let negated := (← peek) == 'P'
  advanceOn
  let c ← peek
  if c == '\x7b' then
    advanceSkip
    let name ← takeWhile (· != '\x7d') (← bound)
    expect '\x7d'
    match splitAt? ['!', '='] name with
    | some (p, v) => return .property (!negated) (.valued p v)
    | none =>
      match (splitAt? [':'] name).or (splitAt? ['='] name) with
      | some (p, v) => return .property negated (.valued p v)
      | none => return .property negated (.single name)
  else
    if c == '\\' then refuse
    advanceSkip
    return .property negated (.single [c])

/-- The kind of word boundary named between braces behind its escape, if
that is what the braces are for. -/
def boundaryName? : Scan (Option Anchor) := do
  let start ← get
  let isNameLetter (c : Char) : Bool := c.isAlpha || c == '-'
  advanceOn
  if !isNameLetter (← peek) then
    modify fun _ => start
    return none
  let name ← takeWhile isNameLetter (← bound)
  expect '\x7d'
  match String.ofList name with
  | "start" => return some .wordStart
  | "end" => return some .wordEnd
  | "start-half" => return some .wordStartHalf
  | "end-half" => return some .wordEndHalf
  | _ => refuse

/-- The characters with a meaning of their own, and all other ASCII
characters but letters, digits and angles, may be escaped without one. -/
def mayEscape (c : Char) : Bool :=
  c.toNat < 0x80 && !c.isAlphanum && c != '<' && c != '>'

/-- An escape, its backslash being next. -/
def escaped : Scan Escaped := do
  advance
  let c ← peek
  let literal (c : Char) : Scan Escaped := do advance; return .literal ⟨c, false⟩
  let anchor (a : Anchor) : Scan Escaped := do advance; return .anchor a
  let shorthand (negated : Bool) (s : Shorthand) : Scan Escaped := do
    advance
    return .set (.shorthand negated s)
  if mayEscape c then literal c
  else match c with
    | 'x' => return .literal (← hexadecimal)
    | 'u' => return .literal (← hexadecimal)
    | 'U' => return .literal (← hexadecimal)
    | 'p' => return .set (← property)
    | 'P' => return .set (← property)
    | 'd' => shorthand false .digit
    | 'D' => shorthand true .digit
    | 's' => shorthand false .blank
    | 'S' => shorthand true .blank
    | 'w' => shorthand false .word
    | 'W' => shorthand true .word
    | 'a' => literal' '\x07'
    | 'f' => literal' '\x0c'
    | 't' => literal' '\t'
    | 'n' => literal' '\n'
    | 'r' => literal' '\r'
    | 'v' => literal' '\x0b'
    | 'A' => anchor .textStart
    | 'z' => anchor .textEnd
    | 'b' =>
      advance
      if (← peek?) = some '\x7b' then
        return .anchor ((← boundaryName?).getD .wordBoundary)
      else return .anchor .wordBoundary
    | 'B' => anchor .noWordBoundary
    | '<' => anchor .wordStart
    | '>' => anchor .wordEnd
    | _ => refuse
where
  /-- A character other than the one its escape is written with. -/
  literal' (c : Char) : Scan Escaped := do
    advance
    return .literal ⟨c, false⟩

/-! ## Classes -/

/-- The ASCII classes by name. -/
def asciiClass? (name : String) : Option (List (Nat × Nat)) :=
  match name with
  | "alnum" => some [(0x30, 0x39), (0x41, 0x5A), (0x61, 0x7A)]
  | "alpha" => some [(0x41, 0x5A), (0x61, 0x7A)]
  | "ascii" => some [(0, 0x7F)]
  | "blank" => some [(0x09, 0x09), (0x20, 0x20)]
  | "cntrl" => some [(0, 0x1F), (0x7F, 0x7F)]
  | "digit" => some [(0x30, 0x39)]
  | "graph" => some [(0x21, 0x7E)]
  | "lower" => some [(0x61, 0x7A)]
  | "print" => some [(0x20, 0x7E)]
  | "punct" => some [(0x21, 0x2F), (0x3A, 0x40), (0x5B, 0x60), (0x7B, 0x7E)]
  | "space" => some [(0x09, 0x0D), (0x20, 0x20)]
  | "upper" => some [(0x41, 0x5A)]
  | "word" => some [(0x30, 0x39), (0x41, 0x5A), (0x5F, 0x5F), (0x61, 0x7A)]
  | "xdigit" => some [(0x30, 0x39), (0x41, 0x46), (0x61, 0x66)]
  | _ => none

/-- An ASCII class by name between brackets and colons, if that comes
next; a text that is not one is left where it is. -/
def asciiClass : Scan (Option CharClass) := do
  match ← rest with
  | '[' :: ':' :: text =>
    let (negated, text) := match text with
      | '^' :: text => (true, text)
      | text => (false, text)
    let name := text.takeWhile (· != ':')
    match text.dropWhile (· != ':'), asciiClass? (String.ofList name) with
    | ':' :: ']' :: after, some ranges =>
      modify fun p => { p with rest := after }
      return some (.ascii negated ranges)
    | _, _ => return none
  | _ => return none

/-- One character or escape inside a class. -/
def classItem : Scan CharClass := do
  if (← peek) == '\\' then
    match ← escaped with
    | .literal l => return .literal l
    | .set c => return c
    | .anchor _ => refuse
  else
    let c ← peek
    advance
    return .literal ⟨c, false⟩

/-- The first character that is no blank, be it behind the sign of a comment
and more blanks. -/
def firstShown? (text : List Char) : Option Char :=
  match text.dropWhile isBlank with
  | '#' :: comment => (comment.dropWhile isBlank).head?
  | shown => shown.head?

/-- The character behind the next one. Where blanks count for nothing they
are left out, and so is the sign of a comment, but the comment's text is
looked at; if there is nothing but blanks, the first of them is taken. -/
def peekSecond? : Scan (Option Char) := do
  let p ← get
  let behind := p.rest.drop 1
  return if p.verbose then (firstShown? behind).or behind.head? else behind.head?

/-- An item of a class or a range of two. -/
def classRange : Scan CharClass := do
  let low ← classItem
  skip
  let c ← peek
  let second ← peekSecond?
  if c != '-' || second == some ']' || second == some '-' then return low
  advanceOn
  let high ← classItem
  match low, high with
  | .literal a, .literal b => if a.char ≤ b.char then return .range a b else refuse
  | _, _ => refuse

/-- Dashes at the start of a class stand for themselves. -/
def leadingDashes : (bound : Nat) → Scan (List CharClass)
  | 0 => return []
  | bound + 1 => do
    if (← peek) == '-' then
      advanceOn
      return .literal ⟨'-', false⟩ :: (← leadingDashes bound)
    else return []

/-- The start of a class up to its first item, its bracket being next:
whether it is negated, and the dashes, or the closing bracket, that stand
for themselves there. -/
def classStart : Scan (Bool × List CharClass) := do
  advanceOn
  let negated := (← peek) == '^'
  if negated then advanceOn
  let dashes ← leadingDashes (← bound)
  if dashes.isEmpty && (← peek) == ']' then
    advanceOn
    return (negated, [.literal ⟨']', false⟩])
  else return (negated, dashes)

/-- The set operation whose sign comes next, if one does. -/
def operation? : Scan (Option SetOperation) := do
  if ← take? ['&', '&'] then return some .inter
  else if ← take? ['-', '-'] then return some .diff
  else if ← take? ['~', '~'] then return some .symmDiff
  else return none

/-- What a class has so far: the operation under way with its left side,
if there is one, and the items gathered since, last first. -/
structure ClassSoFar where
  pending : Option (SetOperation × CharClass)
  items : List CharClass

/-- Closes what has been gathered. -/
def ClassSoFar.close (s : ClassSoFar) : CharClass :=
  let right := CharClass.ofItems s.items.reverse
  match s.pending with
  | some (op, left) => .operation op left right
  | none => right

/-- Reads a class up to and with its closing bracket; classes inside it
count against `fuel`. -/
def classBody : (fuel : Nat) → ClassSoFar → Scan CharClass
  | 0, _ => refuse
  | fuel + 1, soFar => do
    skip
    match ← peek with
    | '[' =>
      match ← asciiClass with
      | some c => classBody fuel { soFar with items := c :: soFar.items }
      | none =>
        let (negated, items) ← classStart
        let body ← classBody fuel ⟨none, items.reverse⟩
        classBody fuel { soFar with items := .bracket negated body :: soFar.items }
    | ']' =>
      advance
      return soFar.close
    | _ =>
      match ← operation? with
      | some op => classBody fuel ⟨some (op, soFar.close), []⟩
      | none =>
        let item ← classRange
        classBody fuel { soFar with items := item :: soFar.items }

/-- A class between brackets, the opening one being next. -/
def bracketClass : Scan CharClass := do
  let (negated, items) ← classStart
  return .bracket negated (← classBody (← bound) ⟨none, items.reverse⟩)

/-! ## Groups -/

/-- The flag of a letter. -/
def flagOf? : Char → Option Flag
  | 'i' => some .ignoreCase
  | 'm' => some .multiLine
  | 's' => some .dotAll
  | 'U' => some .swapGreed
  | 'u' => some .unicode
  | 'R' => some .lineFeeds
  | 'x' => some .verbose
  | _ => none

/-- Flags up to the colon or parenthesis behind them: no flag twice, one
dash at most and a flag behind it. -/
def flagChange : (bound : Nat) → (negative : Bool) → FlagChange → Scan FlagChange
  | 0, _, _ => refuse
  | bound + 1, negative, change => do
    let c ← peek
    if c == ':' || c == ')' then
      if negative && change.off.isEmpty then refuse else return change
    else if c == '-' then
      if negative then refuse
      advance
      flagChange bound true change
    else
      match flagOf? c with
      | none => refuse
      | some flag =>
        if change.on.contains flag || change.off.contains flag then refuse
        advance
        flagChange bound negative
          (if negative then { change with off := flag :: change.off }
            else { change with on := flag :: change.on })

/-- The name of a group up to and with the angle behind it, which no group
before may bear. -/
def groupName : Scan Unit := do
  let name := (← rest).takeWhile (· != '>')
  if !GroupName.isName name || (← get).names.contains name then refuse
  modify fun p => { p with rest := p.rest.drop name.length, names := name :: p.names }
  expect '>'

/-- What an opening parenthesis begins. -/
inductive Opening where
  | flags (change : FlagChange)
  | group (isTold : Bool) (change : FlagChange)

/-- The beginning of a group, its parenthesis being next. -/
def opening : Scan Opening := do
  advanceSkip
  let none : FlagChange := ⟨[], []⟩
  let ahead ← rest
  if ["?=", "?!", "?<=", "?<!"].any fun mark => mark.toList.isPrefixOf ahead then refuse
  if (← take? ['?', 'P', '<']) || (← take? ['?', '<']) then
    groupName
    return .group true none
  else if ← take? ['?'] then
    let empty := (← peek?).all fun c => c == ')'
    if empty then refuse
    let change ← flagChange (← bound) false none
    let closing ← peek
    advance
    return if closing == ')' then .flags change else .group false change
  else return .group true none

/-! ## The whole -/

/-- A part that an operator may repeat. -/
def repeatable : Expression → Bool
  | .flags _ => false
  | _ => true

/-- Puts an operator on the last part, which there must be; the mark behind
the operator comes next. -/
def repeatLast (least : Nat) (most : Option Nat) : List Expression → Scan (List Expression)
  | part :: parts => do
    let isLazy ← laziness
    if repeatable part then return .repeated part least most isLazy :: parts else refuse
  | [] => refuse

/-- Reads branches up to the end or a closing parenthesis. The branches
and the parts read so far come last first. -/
def branches : (fuel : Nat) → List Expression → List Expression → Scan Expression
  | 0, _, _ => refuse
  | fuel + 1, done, parts => do
    skip
    let finish : Scan Expression :=
      return .ofBranches (Expression.ofParts parts.reverse :: done).reverse
    match ← peek? with
    | none => finish
    | some ')' => finish
    | some '|' =>
      advance
      branches fuel (.ofParts parts.reverse :: done) []
    | some '(' =>
      match ← opening with
      | .flags change =>
        modify fun p => { p with verbose := change.after .verbose p.verbose }
        branches fuel done (.flags change :: parts)
      | .group isTold change =>
        let outside := (← get).verbose
        modify fun p => { p with verbose := change.after .verbose p.verbose }
        let body ← branches fuel [] []
        expect ')'
        modify fun p => { p with verbose := outside }
        branches fuel done (.group isTold change body :: parts)
    | some '[' =>
      let c ← bracketClass
      branches fuel done (.oneOf c :: parts)
    | some '?' =>
      advance
      branches fuel done (← repeatLast 0 (some 1) parts)
    | some '*' =>
      advance
      branches fuel done (← repeatLast 0 none parts)
    | some '+' =>
      advance
      branches fuel done (← repeatLast 1 none parts)
    | some '\x7b' =>
      let (least, most) ← counts
      branches fuel done (← repeatLast least most parts)
    | some '\\' =>
      match ← escaped with
      | .literal l => branches fuel done (.literal l :: parts)
      | .anchor a => branches fuel done (.anchor a :: parts)
      | .set c => branches fuel done (.oneOf c :: parts)
    | some '.' =>
      advance
      branches fuel done (.anyChar :: parts)
    | some '^' =>
      advance
      branches fuel done (.anchor .lineStart :: parts)
    | some '$' =>
      advance
      branches fuel done (.anchor .lineEnd :: parts)
    | some c =>
      advance
      branches fuel done (.literal ⟨c, false⟩ :: parts)

/-- How deep the parts of a pattern may lie in each other. -/
def maxNesting : Nat := 250

/-- **Reading a pattern**: all of the text, with every group closed. -/
def read? (source : String) : Option Expression := do
  let text := source.toList
  let (e, p) ← (branches (text.length + 1) [] []).run ⟨text, false, []⟩
  if p.rest.isEmpty && e.nesting ≤ maxNesting then some e else none

end DocumentStore.Pattern
