import DocumentStore.Numeric.Numeral

/-!
# Quoted text

How a string is written between quotes in a document: a quote, a backslash
and the control characters are escaped and everything else stands for
itself (`Quoted.encode`). Reading (`Quoted.read?`) also takes the escapes
that writing never needs: an escaped slash and any character by its UTF-16
units.
-/

namespace DocumentStore.Quoted

/-- A hexadecimal digit in lower case. -/
def hexChar (n : Nat) : Char := Nat.digitChar (n % 16)

/-- The written form of one character. -/
def encodeChar (c : Char) : List Char :=
  match c with
  | '"' => ['\\', '"']
  | '\\' => ['\\', '\\']
  | '\x08' => ['\\', 'b']
  | '\t' => ['\\', 't']
  | '\n' => ['\\', 'n']
  | '\x0c' => ['\\', 'f']
  | '\r' => ['\\', 'r']
  | c =>
    if c.toNat < 0x20 then ['\\', 'u', '0', '0', hexChar (c.toNat / 16), hexChar c.toNat]
    else [c]

/-- The written form of a text, with its quotes. -/
def encode (text : List Char) : List Char :=
  '"' :: text.flatMap encodeChar ++ ['"']

/-- The character a single-letter escape stands for. -/
def simpleEscape? : Char → Option Char
  | '"' => some '"'
  | '\\' => some '\\'
  | '/' => some '/'
  | 'b' => some '\x08'
  | 'f' => some '\x0c'
  | 'n' => some '\n'
  | 'r' => some '\r'
  | 't' => some '\t'
  | _ => none

/-- The UTF-16 unit written with four hexadecimal digits. -/
def unit? (a b c d : Char) : Option Nat := hexValue? [a, b, c, d]

/-- The character of two UTF-16 units, a high surrogate before a low one. -/
def surrogatePair? (high low : Nat) : Option Char :=
  if 0xD800 ≤ high ∧ high < 0xDC00 ∧ 0xDC00 ≤ low ∧ low < 0xE000 then
    some (Char.ofNat (0x10000 + (high - 0xD800) * 0x400 + (low - 0xDC00)))
  else none

/-- The character of one UTF-16 unit, which is no surrogate. -/
def singleUnit? (unit : Nat) : Option Char :=
  if 0xD800 ≤ unit ∧ unit < 0xE000 then none else some (Char.ofNat unit)

/-- Reads up to the closing quote, and returns the text and what follows
the quote. Refuses raw control characters, unknown escapes and lone
surrogates. -/
def read? : List Char → Option (List Char × List Char)
  | [] => none
  | '"' :: rest => some ([], rest)
  | '\\' :: 'u' :: a :: b :: c :: d :: '\\' :: 'u' :: a' :: b' :: c' :: d' :: rest => do
    let first ← unit? a b c d
    match singleUnit? first with
    | some char =>
      let (text, after) ← read? ('\\' :: 'u' :: a' :: b' :: c' :: d' :: rest)
      return (char :: text, after)
    | none =>
      let char ← surrogatePair? first (← unit? a' b' c' d')
      let (text, after) ← read? rest
      return (char :: text, after)
  | '\\' :: 'u' :: a :: b :: c :: d :: rest => do
    let char ← singleUnit? (← unit? a b c d)
    let (text, after) ← read? rest
    return (char :: text, after)
  | '\\' :: escape :: rest => do
    let char ← simpleEscape? escape
    let (text, after) ← read? rest
    return (char :: text, after)
  | c :: rest => do
    if c.toNat < 0x20 || c == '\\' then none
    else
      let (text, after) ← read? rest
      return (c :: text, after)

end DocumentStore.Quoted
