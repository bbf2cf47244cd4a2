import DocumentStore.Value.Basic
import DocumentStore.Text.Quoted

/-!
# Reading values

A text is read into the value it denotes, or refused. The reader takes
the documents' own notation and nothing else: no leading zeros, no
trailing commas, nothing after the value but space. Of a key given twice
the last value counts, in the first one's place. Arrays and objects may
lie in each other only so deep as the caller allows.

Numbers without point and exponent are integers while they fit in 64
bits; the others are doubles. Their digits are first gathered into a
64-bit significand (`Significand`) and then scaled by a power of ten, so
that a double of very many digits, or of a very large or small exponent,
may come out one place off the nearest (`scale?`). A double past the
finite range is refused.
-/

namespace DocumentStore

/-! ## Numbers -/

/-- Digits gathered so far: a number below `2 ^ 64` and the power of ten
it is to be scaled by. -/
structure Significand where
  value : Nat
  exponent : Int

namespace Significand

/-- The significand with one more digit, if that still fits. -/
def push? (s : Significand) (digit : Char) : Option Nat :=
  let n := 10 * s.value + (digit.toNat - '0'.toNat)
  if n < 18446744073709551616 then some n else none

/-- Takes the digits before the point; from the first that does not fit,
each only moves the scale. -/
def takeWhole (s : Significand) : List Char → Significand
  | [] => s
  | digit :: rest =>
    match s.push? digit with
    | some n => takeWhole ⟨n, s.exponent⟩ rest
    | none => ⟨s.value, s.exponent + (rest.length + 1)⟩

/-- Takes the digits behind the point, up to the first that does not
fit. -/
def takeFraction (s : Significand) : List Char → Significand
  | [] => s
  | digit :: rest =>
    match s.push? digit with
    | some n => takeFraction ⟨n, s.exponent - 1⟩ rest
    | none => s

end Significand

/-- A power of ten as a double. -/
def tenTo (n : Nat) : Binary64 := .ofDecimal false 1 n

/-- A double divided by another, both finite and the second positive. -/
def Binary64.div : Binary64 → Binary64 → Binary64
  | .finite x, .finite y => if y.magnitude = 0 then .nan else .divFinite x y
  | _, _ => .nan

/-- A finite double; anything else is refused. -/
def Binary64.finite? : Binary64 → Option Finite64
  | .finite x => some x
  | _ => none

/-- Scales a significand: by one multiplication or division while the
power of ten is itself a double, by two divisions below that, where what
is left after the second range is zero. -/
def Significand.scale? (s : Significand) : Option Finite64 :=
  let start := Binary64.ofInt s.value
  if 0 ≤ s.exponent then
    if s.exponent ≤ 308 then (start.mul (tenTo s.exponent.toNat)).finite?
    else if s.value = 0 then some (.zero false)
    else none
  else if -308 ≤ s.exponent then (start.div (tenTo (-s.exponent).toNat)).finite?
  else if -616 ≤ s.exponent then
    ((start.div (tenTo 308)).div (tenTo (-s.exponent - 308).toNat)).finite?
  else some (.zero false)

namespace Number

/-- The integer a run of digits denotes, if it has a 64-bit one; the text
`-0` is left to the doubles. -/
def integer? (negative : Bool) (digits : List Char) : Option Number :=
  let n := digitsValue digits 0
  if negative then
    if n = 0 then none else (WideInt.ofInt? (-(n : Int))).map .integer
  else (WideInt.ofInt? n).map .integer

/-- The double of a number's parts. -/
def float? (negative : Bool) (whole fraction : List Char) (exponent : Int) : Option Number := do
  let s := ((Significand.mk 0 0).takeWhole whole).takeFraction fraction
  let x ← (Significand.mk s.value (s.exponent + exponent)).scale?
  return .float (if negative then ⟨true, x.exponent, x.fraction⟩ else x)

/-- Splits off the digits behind a leading point; a point needs one. -/
def fraction? : List Char → Option (List Char × List Char)
  | '.' :: rest =>
    let (digits, rest) := Numeral.splitDigits rest
    if digits.isEmpty then none else some (digits, rest)
  | text => some ([], text)

/-- Splits off a leading exponent, `none` inside if there is not one; its
mark needs a digit behind it. -/
def exponent? : List Char → Option (Option Int × List Char)
  | [] => some (none, [])
  | mark :: rest =>
    if mark = 'e' ∨ mark = 'E' then
      let (negative, rest) := splitSign rest
      let (digits, rest) := Numeral.splitDigits rest
      if digits.isEmpty then none
      else
        let n : Int := digitsValue digits 0
        some (some (if negative then -n else n), rest)
    else some (none, mark :: rest)

/-- Reads a number from the front of a text. -/
def read? (text : List Char) : Option (Number × List Char) := do
  let (negative, text) := match text with
    | '-' :: rest => (true, rest)
    | _ => (false, text)
  let (whole, text) := Numeral.splitDigits text
  if whole.isEmpty || (whole.head? == some '0' && 1 < whole.length) then none
  let (fraction, text) ← fraction? text
  let (exponent, text) ← exponent? text
  if fraction.isEmpty && exponent.isNone then
    match integer? negative whole with
    | some n => return (n, text)
    | none => return (← float? negative whole [] 0, text)
  else return (← float? negative whole fraction (exponent.getD 0), text)

end Number

/-! ## Values -/

/-- Drops the space that may stand between the parts of a value. -/
def skipSpace (text : List Char) : List Char :=
  text.dropWhile fun c => c == ' ' || c == '\n' || c == '\r' || c == '\t'

namespace Value

mutual

/-- Reads a value from the front of a text. `levels` is how many arrays
and objects may still be entered; `fuel` bounds the number of steps, and
one more than the text is long is enough. -/
def readValue : (fuel : Nat) → (levels : Nat) → List Char → Option (Value × List Char)
  | 0, _, _ => none
  | fuel + 1, levels, text =>
    match skipSpace text with
    | 'n' :: 'u' :: 'l' :: 'l' :: rest => some (.null, rest)
    | 't' :: 'r' :: 'u' :: 'e' :: rest => some (.bool true, rest)
    | 'f' :: 'a' :: 'l' :: 's' :: 'e' :: rest => some (.bool false, rest)
    | '"' :: rest => (Quoted.read? rest).map fun (s, rest) => (.string (String.ofList s), rest)
    | '[' :: rest =>
      match levels with
      | 0 => none
      | levels + 1 =>
        match skipSpace rest with
        | ']' :: rest => some (.array [], rest)
        | rest => (readItems fuel levels rest).map fun (items, rest) => (.array items, rest)
    | '\x7b' :: rest =>
      match levels with
      | 0 => none
      | levels + 1 =>
        match skipSpace rest with
        | '\x7d' :: rest => some (.object [], rest)
        | rest =>
          (readMembers fuel levels rest).map fun (members, rest) =>
            (.object (Bindings.ofPairs members), rest)
    | text => (Number.read? text).map fun (n, rest) => (.number n, rest)

/-- Reads the items of an array up to its closing bracket. -/
def readItems : Nat → Nat → List Char → Option (List Value × List Char)
  | 0, _, _ => none
  | fuel + 1, levels, text => do
    let (v, rest) ← readValue fuel levels text
    match skipSpace rest with
    | ',' :: rest =>
      let (items, rest) ← readItems fuel levels rest
      return (v :: items, rest)
    | ']' :: rest => return ([v], rest)
    | _ => none

/-- Reads the members of an object up to its closing brace. -/
def readMembers : Nat → Nat → List Char → Option (List (String × Value) × List Char)
  | 0, _, _ => none
  | fuel + 1, levels, text => do
    match skipSpace text with
    | '"' :: rest =>
      let (key, rest) ← Quoted.read? rest
      match skipSpace rest with
      | ':' :: rest =>
        let (v, rest) ← readValue fuel levels rest
        match skipSpace rest with
        | ',' :: rest =>
          let (members, rest) ← readMembers fuel levels rest
          return ((String.ofList key, v) :: members, rest)
        | '\x7d' :: rest => return ([(String.ofList key, v)], rest)
        | _ => none
      | _ => none
    | _ => none

end

/-- **Reading.** The value of a whole text in which no more than `levels`
arrays and objects lie in each other. -/
def read? (levels : Nat) (text : String) : Option Value := do
  let chars := text.toList
  let (v, rest) ← readValue (chars.length + 1) levels chars
  if (skipSpace rest).isEmpty then some v else none

end Value

end DocumentStore
