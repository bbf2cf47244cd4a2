/-!
# Identifiers drawn at random

A document added without an id gets one of four symbols, drawn from a
stream of random words: the top six bits of a word select a symbol, and a
word that selects none is passed over. Ids are drawn until one is free
(`Identifier.draw?`); the words are used up in order.
-/

namespace DocumentStore.Identifier

/-- The symbols of a drawn id, in the order words select them. -/
def alphabet : List Char :=
  "ABCDEFGHIJKLMNOPQRSTUVWXYZabcdefghijklmnopqrstuvwxyz0123456789".toList

/-- The length of a drawn id. -/
def length : Nat := 4

/-- The symbol a word selects. -/
def symbol? (word : UInt32) : Option Char := alphabet[(word >>> 26).toNat]?

/-- Draws from the words, behind the symbols of an id begun before. -/
def drawFrom? (taken : String → Bool) (begun : List Char) :
    List UInt32 → Option (String × List UInt32)
  | [] => none
  | word :: words =>
    match symbol? word with
    | none => drawFrom? taken begun words
    | some c =>
      let symbols := begun ++ [c]
      if symbols.length < length then drawFrom? taken symbols words
      else if taken (String.ofList symbols) then drawFrom? taken [] words
      else some (String.ofList symbols, words)

/-- **Drawing an id**: the first that is not taken, and the words left
behind it; nothing if the words run out first. -/
def draw? (taken : String → Bool) (words : List UInt32) : Option (String × List UInt32) :=
  drawFrom? taken [] words

end DocumentStore.Identifier
