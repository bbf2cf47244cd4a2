/-!
# UTF-8

The bytes of a character (`encode`), and the ranges of bytes by which a
range of characters is read: each sequence of byte ranges (`sequences`)
stands for the characters whose bytes lie in its ranges one by one, and
the sequences of a range come in ascending order.
-/

namespace DocumentStore.Utf8

/-- The bytes of a code point. -/
def encode (n : Nat) : List Nat :=
  if n < 0x80 then [n]
  else if n < 0x800 then [0xC0 + n / 0x40, 0x80 + n % 0x40]
  else if n < 0x10000 then [0xE0 + n / 0x1000, 0x80 + n / 0x40 % 0x40, 0x80 + n % 0x40]
  else [0xF0 + n / 0x40000, 0x80 + n / 0x1000 % 0x40, 0x80 + n / 0x40 % 0x40, 0x80 + n % 0x40]

/-- Cuts a range at the given points, each of which begins a part. -/
def cutAt : List Nat → (low high : Nat) → List (Nat × Nat)
  | [], low, high => [(low, high)]
  | point :: points, low, high =>
    if low < point && point ≤ high then (low, point - 1) :: cutAt points point high
    else cutAt points low high

/-- The points at which the number of bytes changes, and the two ends of the
gap left by the surrogates. -/
def lengthPoints : List Nat := [0x80, 0x800, 0xD800, 0xE000, 0x10000]

/-- Cuts a range so that each part fills whole blocks of its size or lies
in one block, at as many levels as asked for, the next level's blocks
being of 64 blocks of this one. -/
def align : (levels block : Nat) → (low high : Nat) → List (Nat × Nat)
  | 0, _, low, high => [(low, high)]
  | levels + 1, block, low, high =>
    if low / block = high / block then [(low, high)]
    else
      let (head, inner) :=
        if low % block = 0 then ([], low)
        else ([(low, low / block * block + block - 1)], low / block * block + block)
      let (tail, outer) :=
        if high % block = block - 1 then ([], high + 1)
        else ([(high / block * block, high)], high / block * block)
      let middle := if inner < outer then align levels (0x40 * block) inner (outer - 1) else []
      head ++ middle ++ tail

/-- The sequences of byte ranges of a range of characters. -/
def sequences (low high : Nat) : List (List (Nat × Nat)) :=
  (cutAt lengthPoints low high).flatMap fun (low, high) =>
    if 0xD800 ≤ low && high < 0xE000 then []
    else if high < 0x80 then [[(low, high)]]
    else (align 3 0x40 low high).map fun (low, high) => (encode low).zip (encode high)

end DocumentStore.Utf8
