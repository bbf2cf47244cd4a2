import DocumentStore.Pattern.Age
import DocumentStore.Pattern.BinaryProperty
import DocumentStore.Pattern.Category
import DocumentStore.Pattern.Script
import DocumentStore.Pattern.Segmentation

/-!
# Properties

The properties of characters that a pattern can ask for. A single name is
that of a binary property, a general category or a script, looked up in
that order (`namedSet?`); a property with a value is one of those in
`valueSet?`. Names are compared in a reduced form (`reduceName`). Three
classes have letters of their own: digits, blanks and word characters
(`digitSet`, `blankSet`, `wordSet`).
-/

namespace DocumentStore.Pattern

/-- Decimal digits. -/
def digitSet : CharSet := decimalNumber.set

/-- Blanks, the characters with the White_Space property. -/
def blankSet : CharSet := .ofTable whiteSpaceTable

/-- Word characters: alphabetic characters, marks, digits, connectors and
the two join controls. -/
def wordSet : CharSet :=
  .ofRanges <| [CharSet.ofTable alphabeticTable, nonspacingMark.set, spacingMark.set,
    enclosingMark.set, digitSet, connectorPunctuation.set,
    CharSet.ofTable joinControlTable].flatMap (·.ranges)

/-- The blanks of ASCII. -/
def asciiBlankSet : CharSet := ⟨[(0x09, 0x0D), (0x20, 0x20)]⟩

/-- The word characters of ASCII. -/
def asciiWordSet : CharSet := ⟨[(0x30, 0x39), (0x41, 0x5A), (0x5F, 0x5F), (0x61, 0x7A)]⟩

/-- A name without case and separators, an `is` in front left out: so are
the names of properties compared. -/
def reduceName (name : List Char) : String :=
  let isPrefixed := match name with
    | i :: s :: _ => (i == 'i' || i == 'I') && (s == 's' || s == 'S')
    | _ => false
  let body := if isPrefixed then name.drop 2 else name
  let kept := body.filter fun c => c.toNat < 0x80 && c != ' ' && c != '_' && c != '-'
  let reduced := kept.map Char.toLower
  String.ofList (if isPrefixed && reduced == ['c'] then "isc".toList else reduced)

/-- The general category, or one of the sets named along with them, of a
reduced name. -/
def generalSet? (name : String) : Option CharSet :=
  match name with
  | "any" => some .all
  | "assigned" => some unassigned.set.complement
  | "ascii" => some (.range 0 0x7F)
  | name => categorySet? name

/-- The characters of a property given by one name: a binary property, a
category or a script. Three short names are those of categories although
properties bear them too. -/
def namedSet? (name : String) : Option CharSet :=
  let binary := if ["cf", "sc", "lc"].contains name then none else binarySet? name
  (binary.or (generalSet? name)).or (scriptSet? name)

/-- The characters with a value of a property, both given by reduced
names. -/
def valueSet? (property value : String) : Option CharSet :=
  match property with
  | "gc" | "generalcategory" => generalSet? value
  | "sc" | "script" => scriptSet? value
  | "scx" | "scriptextensions" => extensionSet? value
  | "age" => ageSet? value
  | "gcb" | "graphemeclusterbreak" => graphemeClusterBreakSet? value
  | "wb" | "wordbreak" => wordBreakSet? value
  | "sb" | "sentencebreak" => sentenceBreakSet? value
  | _ => none

end DocumentStore.Pattern
