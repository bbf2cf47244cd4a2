import DocumentStore.Proofs.Integers
import Mathlib.Data.List.TakeWhile
import Mathlib.Data.Nat.Digits.Defs

/-!
# Spelling — the texts that are numbers

Blanks around it aside, a text is a number if it is spelled as one: it is empty,
or an infinity, or hexadecimal digits behind `0x`, or a decimal numeral (`Spells`).
The grammar says what is written, and the reader takes a text apart from the
front. They agree on decimal numerals (`Numeral.read?_eq_some_iff`) and on runs
of hexadecimal digits (`hexValue?_eq_some_iff`), which are the nearest double
(`exists_isNearest_of_written`).

Behind `0x` they part. Digits that need more than 64 bits are no number
(`Hexadecimal.Overlong`), and a plus sign in front of digits is passed over
(`Hexadecimal.Signed`). Every other text is a number just if it is spelled as one
(`numeric_text_iff`).
-/

namespace DocumentStore

variable {text digits whole fraction sign body rest : List Char} {negative : Bool} {n : Nat}
  {e : Int} {mark : Char} {v : Binary64}

/-! ## The grammar -/

namespace Numeral

/-- A sign that may be left out, and whether it is a minus. -/
inductive Sign : List Char → Bool → Prop
  | absent : Sign [] false
  | plus : Sign ['+'] false
  | minus : Sign ['-'] true

/-- A point with digits behind it, if there are any, or neither. -/
inductive Fraction : List Char → List Char → Prop
  | absent : Fraction [] []
  | digits {digits : List Char} (h : ∀ c ∈ digits, c.isDigit = true) :
      Fraction ('.' :: digits) digits

/-- An exponent that may be left out. -/
inductive Exponent : List Char → Int → Prop
  | absent : Exponent [] 0
  | digits {mark : Char} {sign digits : List Char} {negative : Bool}
      (hmark : mark = 'e' ∨ mark = 'E') (hsign : Sign sign negative) (hne : digits ≠ [])
      (h : ∀ c ∈ digits, c.isDigit = true) :
      Exponent (mark :: (sign ++ digits))
        (if negative then -(digitsValue digits 0 : Int) else digitsValue digits 0)

/-- A decimal numeral: a sign, digits with a point and at least one digit, and an
exponent. -/
inductive Decimal : List Char → Numeral → Prop
  | intro {sign whole point fraction exponent : List Char} {negative : Bool} {e : Int}
      (hsign : Sign sign negative) (hwhole : ∀ c ∈ whole, c.isDigit = true)
      (hfraction : Fraction point fraction) (hdigit : whole ++ fraction ≠ [])
      (hexponent : Exponent exponent e) :
      Decimal (sign ++ (whole ++ (point ++ exponent)))
        ⟨negative, digitsValue (whole ++ fraction) 0, e - fraction.length⟩

end Numeral

/-- Hexadecimal digits, at least one, and the number they denote. -/
def Hexadecimal (digits : List Char) (n : Nat) : Prop :=
  digits ≠ [] ∧ ∃ values : List Nat,
    List.Forall₂ (fun c d => hexDigit? c = some d) digits values ∧
      n = Nat.ofDigits 16 values.reverse

/-- What a text without blanks around it is spelled as. -/
inductive Spells : List Char → Binary64 → Prop
  | blank : Spells [] (.finite (.zero false))
  | infinity {sign : List Char} {negative : Bool} (hsign : Numeral.Sign sign negative) :
      Spells (sign ++ "Infinity".toList) (.infinite negative)
  | hexadecimal {mark : Char} {digits : List Char} {n : Nat} (hmark : mark = 'x' ∨ mark = 'X')
      (h : Hexadecimal digits n) : Spells ('0' :: mark :: digits) (.ofInt n)
  | decimal {text : List Char} {n : Numeral} (h : Numeral.Decimal text n) : Spells text n.value

/-! ## Decimal numerals are read as they are spelled -/

namespace Numeral

theorem splitSign_sound (text : List Char) :
    ∃ sign, Sign sign (splitSign text).1 ∧ text = sign ++ (splitSign text).2 := by
  unfold splitSign
  split
  · exact ⟨['-'], .minus, rfl⟩
  · exact ⟨['+'], .plus, rfl⟩
  · exact ⟨[], .absent, rfl⟩

theorem Sign.split (hsign : Sign sign negative) (hbody : ∀ c ∈ body.head?, c ≠ '+' ∧ c ≠ '-') :
    splitSign (sign ++ body) = (negative, body) := by
  cases hsign with
  | plus => rfl
  | minus => rfl
  | absent =>
    rw [List.nil_append]
    unfold splitSign
    split
    · exact absurd rfl (hbody '-' rfl).2
    · exact absurd rfl (hbody '+' rfl).1
    · rfl

theorem splitDigits_sound (text : List Char) :
    (∀ c ∈ (splitDigits text).1, c.isDigit = true) ∧
      text = (splitDigits text).1 ++ (splitDigits text).2 :=
  ⟨fun _ hc => List.mem_takeWhile_imp hc, List.takeWhile_append_dropWhile.symm⟩

theorem splitDigits_append_of_digits (hdigits : ∀ c ∈ digits, c.isDigit = true)
    (hrest : ∀ c ∈ rest.head?, c.isDigit = false) :
    splitDigits (digits ++ rest) = (digits, rest) := by
  have hnone : rest.takeWhile Char.isDigit = [] ∧ rest.dropWhile Char.isDigit = rest := by
    cases rest with
    | nil => exact ⟨rfl, rfl⟩
    | cons c rest =>
      have hc : ¬ c.isDigit = true := by simp [hrest c rfl]
      exact ⟨List.takeWhile_cons_of_neg hc, List.dropWhile_cons_of_neg hc⟩
  unfold splitDigits
  rw [List.takeWhile_append_of_pos hdigits, List.dropWhile_append_of_pos hdigits, hnone.1, hnone.2,
    List.append_nil]

theorem splitFraction_sound (text : List Char) :
    ∃ point, Fraction point (splitFraction text).1 ∧ text = point ++ (splitFraction text).2 := by
  unfold splitFraction
  split
  · next rest =>
    obtain ⟨hdigits, hrest⟩ := splitDigits_sound rest
    exact ⟨'.' :: (splitDigits rest).1, .digits hdigits, congrArg ('.' :: ·) hrest⟩
  · exact ⟨[], .absent, rfl⟩

/-- An exponent begins with its mark. -/
theorem Exponent.head (h : Exponent text e) : ∀ c ∈ text.head?, c = 'e' ∨ c = 'E' := by
  intro c hc
  cases h with
  | absent => cases hc
  | digits hmark _ _ _ =>
    cases hc
    exact hmark

theorem Exponent.head_isDigit (h : Exponent text e) : ∀ c ∈ text.head?, c.isDigit = false := by
  intro c hc
  rcases h.head c hc with rfl | rfl <;> rfl

theorem Fraction.split {point : List Char} (hfraction : Fraction point fraction)
    (hexponent : Exponent rest e) : splitFraction (point ++ rest) = (fraction, rest) := by
  cases hfraction with
  | digits hdigits => exact splitDigits_append_of_digits hdigits hexponent.head_isDigit
  | absent =>
    rw [List.nil_append]
    unfold splitFraction
    split
    · rcases hexponent.head '.' rfl with h | h <;> cases h
    · rfl

theorem isDigits_iff : isDigits digits = true ↔ digits ≠ [] ∧ ∀ c ∈ digits, c.isDigit = true := by
  simp only [isDigits, Bool.and_eq_true, Bool.not_eq_true', List.isEmpty_eq_false_iff,
    List.all_eq_true]

/-- A digit is no sign. -/
theorem ne_sign_of_isDigit {c : Char} (h : c.isDigit = true) : c ≠ '+' ∧ c ≠ '-' := by
  constructor <;> rintro rfl <;> cases h

theorem exponentPart?_eq_some_iff : exponentPart? text = some e ↔ Exponent text e := by
  constructor
  · intro h
    cases text with
    | nil =>
      cases h
      exact .absent
    | cons mark rest =>
      obtain ⟨sign, hsign, hrest⟩ := splitSign_sound rest
      unfold exponentPart? at h
      dsimp only at h
      split at h
      · next hcond =>
        cases h
        obtain ⟨hmark, hdigits⟩ := hcond
        obtain ⟨hne, hdigits⟩ := isDigits_iff.1 hdigits
        have hexponent := Exponent.digits hmark hsign hne hdigits
        rwa [← hrest] at hexponent
      · cases h
  · intro h
    cases h with
    | absent => rfl
    | digits hmark hsign hne hdigits =>
      have hsplit := hsign.split fun c hc =>
        ne_sign_of_isDigit (hdigits c (List.mem_of_mem_head? hc))
      unfold exponentPart?
      dsimp only
      rw [hsplit]
      exact if_pos ⟨hmark, isDigits_iff.2 ⟨hne, hdigits⟩⟩

theorem digitsValue_append (whole fraction : List Char) :
    digitsValue (whole ++ fraction) 0 = digitsValue fraction (digitsValue whole 0) :=
  List.foldl_append

/-- **Decimal numerals are read, and nothing else is.** -/
theorem read?_eq_some_iff {n : Numeral} : read? text = some n ↔ Decimal text n := by
  constructor
  · intro h
    obtain ⟨sign, hsign, hbody⟩ := splitSign_sound text
    obtain ⟨hwhole, hafter⟩ := splitDigits_sound (splitSign text).2
    obtain ⟨point, hfraction, hrest⟩ := splitFraction_sound (splitDigits (splitSign text).2).2
    unfold read? at h
    dsimp only at h
    split at h
    · cases h
    · next hdigit =>
      obtain ⟨e, hexponent, rfl⟩ := Option.map_eq_some_iff.1 h
      have hne : (splitDigits (splitSign text).2).1 ++
          (splitFraction (splitDigits (splitSign text).2).2).1 ≠ [] := by
        simpa [List.append_eq_nil_iff] using hdigit
      rw [← digitsValue_append]
      have hdecimal :=
        Decimal.intro hsign hwhole hfraction hne (exponentPart?_eq_some_iff.1 hexponent)
      rwa [← hrest, ← hafter, ← hbody] at hdecimal
  · rintro @⟨sign, whole, point, fraction, exponent, negative, e, hsign, hwhole, hfraction,
      hdigit, hexponent⟩
    have hbody : ∀ c ∈ (whole ++ (point ++ exponent)).head?, c ≠ '+' ∧ c ≠ '-' := by
      cases whole with
      | cons d whole =>
        rintro c ⟨⟩
        exact ne_sign_of_isDigit (hwhole d List.mem_cons_self)
      | nil =>
        -- without digits in front there is a point
        cases hfraction with
        | absent => exact absurd rfl hdigit
        | digits _ =>
          rintro c ⟨⟩
          decide
    have hafter : ∀ c ∈ (point ++ exponent).head?, c.isDigit = false := by
      cases hfraction with
      | absent => exact hexponent.head_isDigit
      | digits _ =>
        rintro c ⟨⟩
        rfl
    have hsome : ¬ (whole.isEmpty && fraction.isEmpty) = true := by
      simpa [List.append_eq_nil_iff] using hdigit
    unfold read?
    dsimp only
    rw [hsign.split hbody, splitDigits_append_of_digits hwhole hafter]
    dsimp only
    rw [hfraction.split hexponent, if_neg hsome, exponentPart?_eq_some_iff.2 hexponent,
      digitsValue_append]
    rfl

end Numeral

/-! ## So are hexadecimal digits -/

/-- Digits are read from the first on, what is read so far being shifted by each. -/
theorem foldlM_hexDigit?_eq_some_iff {acc : Nat} :
    digits.foldlM (fun n c => (hexDigit? c).map (16 * n + ·)) acc = some n ↔
      ∃ values : List Nat, List.Forall₂ (fun c d => hexDigit? c = some d) digits values ∧
        n = values.foldl (fun n d => 16 * n + d) acc := by
  induction digits generalizing acc with
  | nil =>
    constructor
    · rintro ⟨⟩
      exact ⟨[], .nil, rfl⟩
    · rintro ⟨_, ⟨⟩, rfl⟩
      rfl
  | cons c digits ih =>
    rw [List.foldlM_cons]
    constructor
    · intro h
      obtain ⟨next, hnext, h⟩ := Option.bind_eq_some_iff.1 h
      obtain ⟨d, hd, rfl⟩ := Option.map_eq_some_iff.1 hnext
      obtain ⟨values, hvalues, rfl⟩ := ih.1 h
      exact ⟨d :: values, .cons hd hvalues, rfl⟩
    · rintro ⟨_, hvalues, rfl⟩
      cases hvalues with
      | cons hd hvalues =>
        rw [hd]
        exact ih.2 ⟨_, hvalues, rfl⟩

theorem hexValue?_eq_some_iff : hexValue? digits = some n ↔ Hexadecimal digits n := by
  have hdenote (values : List Nat) :
      values.foldl (fun n d => 16 * n + d) 0 = Nat.ofDigits 16 values.reverse := by
    rw [Nat.ofDigits_eq_foldr, List.foldr_reverse]
    simp only [Nat.cast_id, Nat.add_comm]
  unfold hexValue? Hexadecimal
  split
  · next hempty =>
    rw [List.isEmpty_iff] at hempty
    simp [hempty]
  · next hempty =>
    rw [List.isEmpty_iff] at hempty
    rw [foldlM_hexDigit?_eq_some_iff]
    simp only [hdenote, ne_eq, hempty, not_false_eq_true, true_and]

/-- Digits denote one number. -/
theorem Hexadecimal.unique {m : Nat} (h : Hexadecimal digits m) (h' : Hexadecimal digits n) :
    m = n :=
  Option.some.inj ((hexValue?_eq_some_iff.2 h).symm.trans (hexValue?_eq_some_iff.2 h'))

/-- A plus sign is no digit. -/
theorem not_hexadecimal_plus : ¬ Hexadecimal ('+' :: digits) n := by
  rintro ⟨-, values, hvalues, -⟩
  cases hvalues with
  | cons hdigit _ => cases hdigit

/-! ## Numbers that are spelled are numbers -/

namespace Binary64

theorem ofRatio_ne_nan (negative : Bool) (num den : Nat) : ofRatio negative num den ≠ .nan := by
  unfold ofRatio ofEncoded
  dsimp only
  split <;> exact (nomatch ·)

theorem ofInt_ne_nan (i : Int) : ofInt i ≠ .nan := ofRatio_ne_nan _ _ _

theorem ofDecimal_ne_nan (negative : Bool) (significand : Nat) (exponent : Int) :
    ofDecimal negative significand exponent ≠ .nan := by
  unfold ofDecimal
  split
  · split
    · exact (nomatch ·)
    · split
      · exact (nomatch ·)
      · exact ofRatio_ne_nan _ _ _
  · split
    · exact (nomatch ·)
    · exact ofRatio_ne_nan _ _ _

end Binary64

theorem Spells.ne_nan (h : Spells text v) : v ≠ .nan := by
  cases h with
  | blank => exact (nomatch ·)
  | infinity _ => exact (nomatch ·)
  | hexadecimal _ _ => exact Binary64.ofInt_ne_nan _
  | decimal _ => exact Binary64.ofDecimal_ne_nan _ _ _

/-! ## Behind `0x` -/

namespace Hexadecimal

/-- The text `0x` and the hexadecimal digits of a number. -/
def Written (text : List Char) (n : Nat) : Prop :=
  ∃ mark digits, (mark = 'x' ∨ mark = 'X') ∧ text = '0' :: mark :: digits ∧ Hexadecimal digits n

/-- Those of a number that needs more than 64 bits. -/
def Overlong (text : List Char) : Prop := ∃ n, Written text n ∧ 18446744073709551616 ≤ n

/-- A plus sign and then the hexadecimal digits of a number of 64 bits behind
`0x`. -/
def Signed (text : List Char) (n : Nat) : Prop :=
  ∃ mark digits, (mark = 'x' ∨ mark = 'X') ∧ text = '0' :: mark :: '+' :: digits ∧
    Hexadecimal digits n ∧ n < 18446744073709551616

/-- The number of hexadecimal digits, if it fits in 64 bits. -/
def word (digits : List Char) : Binary64 :=
  match hexValue? digits with
  | some n => if n < 18446744073709551616 then .ofInt n else .nan
  | none => .nan

theorem word_eq_iff :
    word digits = v ∧ v ≠ .nan ↔
      ∃ n, Hexadecimal digits n ∧ n < 18446744073709551616 ∧ v = .ofInt n := by
  unfold word
  constructor
  · rintro ⟨rfl, hv⟩
    split at hv
    · next n hvalue =>
      split at hv
      · next hn => exact ⟨n, hexValue?_eq_some_iff.1 hvalue, hn, if_pos hn⟩
      · exact absurd rfl hv
    · exact absurd rfl hv
  · rintro ⟨n, hdigits, hn, rfl⟩
    rw [hexValue?_eq_some_iff.2 hdigits]
    exact ⟨if_pos hn, Binary64.ofInt_ne_nan n⟩

/-- **A plus sign behind `0x` is passed over.** -/
theorem hexadecimal_plus (digits : List Char) :
    numberOfText.hexadecimal ('+' :: digits) = word digits := rfl

theorem hexadecimal_of_ne (h : ∀ digits, text ≠ '+' :: digits) :
    numberOfText.hexadecimal text = word text := by
  unfold numberOfText.hexadecimal
  split
  · next digits => exact absurd rfl (h digits)
  · rfl

theorem hexadecimal_eq_iff :
    numberOfText.hexadecimal text = v ∧ v ≠ .nan ↔
      ∃ n : Nat, v = .ofInt n ∧ n < 18446744073709551616 ∧
        (Hexadecimal text n ∨ ∃ digits, text = '+' :: digits ∧ Hexadecimal digits n) := by
  by_cases hplus : ∃ digits, text = '+' :: digits
  · obtain ⟨digits, rfl⟩ := hplus
    rw [hexadecimal_plus, word_eq_iff]
    constructor
    · rintro ⟨n, hdigits, hn, hv⟩
      exact ⟨n, hv, hn, .inr ⟨digits, rfl, hdigits⟩⟩
    · rintro ⟨n, hv, hn, hdigits | ⟨_, ⟨⟩, hdigits⟩⟩
      · exact absurd hdigits not_hexadecimal_plus
      · exact ⟨n, hdigits, hn, hv⟩
  · rw [hexadecimal_of_ne fun digits h => hplus ⟨digits, h⟩, word_eq_iff]
    constructor
    · rintro ⟨n, hdigits, hn, hv⟩
      exact ⟨n, hv, hn, .inl hdigits⟩
    · rintro ⟨n, hv, hn, hdigits | ⟨digits, htext, -⟩⟩
      · exact ⟨n, hdigits, hn, hv⟩
      · exact absurd ⟨digits, htext⟩ hplus

/-- A text that begins like a hexadecimal numeral. -/
def Marked (text : List Char) : Prop :=
  ∃ mark digits, (mark = 'x' ∨ mark = 'X') ∧ text = '0' :: mark :: digits

theorem Overlong.marked (h : Overlong text) : Marked text := by
  obtain ⟨_, ⟨mark, digits, hmark, htext, -⟩, -⟩ := h
  exact ⟨mark, digits, hmark, htext⟩

theorem Signed.marked (h : Signed text n) : Marked text := by
  obtain ⟨mark, digits, hmark, htext, -⟩ := h
  exact ⟨mark, '+' :: digits, hmark, htext⟩

/-- What begins like a hexadecimal numeral is no decimal one: behind the zero no
exponent is found. -/
theorem read?_eq_none (hmark : mark = 'x' ∨ mark = 'X') :
    Numeral.read? ('0' :: mark :: digits) = none := by
  rcases hmark with rfl | rfl <;> rfl

/-- **So nothing but a hexadecimal numeral is spelled there.** -/
theorem spells_iff (hmark : mark = 'x' ∨ mark = 'X') :
    Spells ('0' :: mark :: digits) v ↔ ∃ n, Hexadecimal digits n ∧ v = .ofInt n := by
  constructor
  · intro h
    generalize htext : '0' :: mark :: digits = text at h
    cases h with
    | blank => cases htext
    | infinity hsign => cases hsign <;> simp at htext
    | hexadecimal _ hdigits =>
      cases htext
      exact ⟨_, hdigits, rfl⟩
    | decimal hdecimal =>
      rw [← htext, ← Numeral.read?_eq_some_iff, read?_eq_none hmark] at hdecimal
      cases hdecimal
  · rintro ⟨n, hdigits, rfl⟩
    exact .hexadecimal hmark hdigits

theorem overlong_iff (hmark : mark = 'x' ∨ mark = 'X') :
    Overlong ('0' :: mark :: digits) ↔ ∃ n, Hexadecimal digits n ∧ 18446744073709551616 ≤ n := by
  constructor
  · rintro ⟨n, ⟨_, _, -, ⟨⟩, hdigits⟩, hn⟩
    exact ⟨n, hdigits, hn⟩
  · rintro ⟨n, hdigits, hn⟩
    exact ⟨n, ⟨mark, digits, hmark, rfl, hdigits⟩, hn⟩

theorem signed_iff (hmark : mark = 'x' ∨ mark = 'X') :
    Signed ('0' :: mark :: digits) n ↔
      ∃ rest, digits = '+' :: rest ∧ Hexadecimal rest n ∧ n < 18446744073709551616 := by
  constructor
  · rintro ⟨_, rest, -, ⟨⟩, hn⟩
    exact ⟨rest, rfl, hn⟩
  · rintro ⟨rest, rfl, hn⟩
    exact ⟨mark, rest, hmark, rfl, hn⟩

theorem Written.spells (h : Written text n) : Spells text (.ofInt n) := by
  obtain ⟨mark, digits, hmark, rfl, hdigits⟩ := h
  exact .hexadecimal hmark hdigits

/-- A sign behind `0x` is not spelled. -/
theorem Signed.not_spells (h : Signed text n) : ¬ Spells text v := by
  obtain ⟨mark, digits, hmark, rfl, -⟩ := h
  rw [spells_iff hmark]
  rintro ⟨_, hdigits, -⟩
  exact not_hexadecimal_plus hdigits

end Hexadecimal

/-! ## Which texts are numbers -/

variable {s : String}

theorem numberOfText_of_marked (hmark : mark = 'x' ∨ mark = 'X')
    (htext : trim s.toList = '0' :: mark :: digits) :
    numberOfText s = numberOfText.hexadecimal digits := by
  unfold numberOfText
  rw [htext]
  rcases hmark with rfl | rfl <;> rfl

theorem numberOfText_of_spells (hmarked : ¬ Hexadecimal.Marked (trim s.toList))
    (h : Spells (trim s.toList) v) : numberOfText s = v := by
  unfold numberOfText
  generalize trim s.toList = text at h hmarked
  cases h with
  | blank => rfl
  | infinity hsign => cases hsign <;> rfl
  | hexadecimal hmark _ => exact absurd ⟨_, _, hmark, rfl⟩ hmarked
  | decimal hdecimal =>
    have hread := Numeral.read?_eq_some_iff.2 hdecimal
    split
    · cases hread
    · exact absurd ⟨'x', _, .inl rfl, rfl⟩ hmarked
    · exact absurd ⟨'X', _, .inr rfl, rfl⟩ hmarked
    · -- no infinity is read as a numeral
      have hpositive : ¬ (text = "Infinity".toList ∨ text = "+Infinity".toList) := by
        rintro (rfl | rfl) <;> cases hread
      have hnegative : text ≠ "-Infinity".toList := by
        rintro rfl
        cases hread
      rw [if_neg hpositive, if_neg hnegative, hread]
      rfl

theorem spells_of_numberOfText (hmarked : ¬ Hexadecimal.Marked (trim s.toList))
    (h : numberOfText s = v) (hv : v ≠ .nan) : Spells (trim s.toList) v := by
  unfold numberOfText at h
  generalize trim s.toList = text at h hmarked
  split at h
  · exact h ▸ .blank
  · exact absurd ⟨'x', _, .inl rfl, rfl⟩ hmarked
  · exact absurd ⟨'X', _, .inr rfl, rfl⟩ hmarked
  · split at h
    · next hpositive =>
      rcases hpositive with rfl | rfl
      · exact h ▸ .infinity .absent
      · exact h ▸ .infinity .plus
    · split at h
      · next hnegative =>
        subst hnegative
        exact h ▸ .infinity .minus
      · cases hread : Numeral.read? text with
        | none =>
          rw [hread] at h
          exact absurd h.symm hv
        | some n =>
          rw [hread] at h
          exact h ▸ .decimal (Numeral.read?_eq_some_iff.1 hread)

theorem numberOfText_eq_iff :
    numberOfText s = v ∧ v ≠ .nan ↔
      Spells (trim s.toList) v ∧ ¬ Hexadecimal.Overlong (trim s.toList) ∨
        ∃ n : Nat, Hexadecimal.Signed (trim s.toList) n ∧ v = .ofInt n := by
  by_cases hmarked : Hexadecimal.Marked (trim s.toList)
  · obtain ⟨mark, digits, hmark, htext⟩ := hmarked
    rw [numberOfText_of_marked hmark htext, Hexadecimal.hexadecimal_eq_iff, htext,
      Hexadecimal.spells_iff hmark, Hexadecimal.overlong_iff hmark]
    simp only [Hexadecimal.signed_iff hmark]
    constructor
    · rintro ⟨n, hv, hn, hdigits | ⟨rest, hrest, hdigits⟩⟩
      · refine .inl ⟨⟨n, hdigits, hv⟩, ?_⟩
        rintro ⟨m, hdigits', hm⟩
        have := hdigits.unique hdigits'
        omega
      · exact .inr ⟨n, ⟨rest, hrest, hdigits, hn⟩, hv⟩
    · rintro (⟨⟨n, hdigits, hv⟩, hfits⟩ | ⟨n, ⟨rest, hrest, hdigits, hn⟩, hv⟩)
      · exact ⟨n, hv, Nat.lt_of_not_le fun hle => hfits ⟨n, hdigits, hle⟩, .inl hdigits⟩
      · exact ⟨n, hv, hn, .inr ⟨rest, hrest, hdigits⟩⟩
  · have hfits : ¬ Hexadecimal.Overlong (trim s.toList) := fun h => hmarked h.marked
    have hunsigned : ¬ ∃ n : Nat, Hexadecimal.Signed (trim s.toList) n ∧ v = .ofInt n :=
      fun ⟨_, h, _⟩ => hmarked h.marked
    constructor
    · rintro ⟨h, hv⟩
      exact .inl ⟨spells_of_numberOfText hmarked h hv, hfits⟩
    · rintro (⟨hspells, -⟩ | hsigned)
      · exact ⟨numberOfText_of_spells hmarked hspells, hspells.ne_nan⟩
      · exact absurd hsigned hunsigned

/-- A text is a number just if it is spelled as one, and it is the number it is
spelled as. -/
def ReadAsSpelled (s : String) : Prop :=
  ∀ v, toNumber (some (.string s)) = v ∧ v ≠ .nan ↔ Spells (trim s.toList) v

/-- Digits of 64 bits are read as the nearest double. -/
theorem exists_isNearest_of_written (hwritten : Hexadecimal.Written (trim s.toList) n)
    (hn : n < 18446744073709551616) :
    ∃ x, numberOfText s = .finite x ∧ x.IsNearest n := by
  have hnumber : numberOfText s = .ofInt n := by
    obtain ⟨mark, digits, hmark, htext, hdigits⟩ := hwritten
    rw [numberOfText_of_marked hmark htext]
    exact (Hexadecimal.hexadecimal_eq_iff.2 ⟨n, rfl, hn, .inl hdigits⟩).1
  obtain ⟨x, hx, -⟩ := Binary64.exists_ofInt (i := n) (log2_lt_of_le (by omega))
  exact ⟨x, hnumber.trans hx, Binary64.isNearest_ofInt hx⟩

/-- **Which texts are numbers.** Those that are spelled as one, but for hexadecimal
digits that need more than 64 bits; and those with a plus sign between `0x` and the
digits. Hexadecimal digits of 64 bits are the nearest double. So a text is read as
it is spelled just if it is neither overlong nor signed. -/
theorem numeric_text_iff (s : String) :
    (∀ v, toNumber (some (.string s)) = v ∧ v ≠ .nan ↔
      Spells (trim s.toList) v ∧ ¬ Hexadecimal.Overlong (trim s.toList) ∨
        ∃ n : Nat, Hexadecimal.Signed (trim s.toList) n ∧ v = .ofInt n) ∧
    (∀ n : Nat, Hexadecimal.Written (trim s.toList) n → n < 18446744073709551616 →
      ∃ x, toNumber (some (.string s)) = .finite x ∧ x.IsNearest n) ∧
    (ReadAsSpelled s ↔
      ¬ Hexadecimal.Overlong (trim s.toList) ∧ ∀ n, ¬ Hexadecimal.Signed (trim s.toList) n) := by
  have hnumber (v : Binary64) : toNumber (some (.string s)) = v ∧ v ≠ .nan ↔
      Spells (trim s.toList) v ∧ ¬ Hexadecimal.Overlong (trim s.toList) ∨
        ∃ n : Nat, Hexadecimal.Signed (trim s.toList) n ∧ v = .ofInt n := numberOfText_eq_iff
  refine ⟨hnumber, fun n => exists_isNearest_of_written,
    fun h => ⟨fun hlong => ?_, fun n hsigned => ?_⟩, ?_⟩
  · -- what is overlong is spelled, and so would be a number
    obtain ⟨n, hwritten, -⟩ := id hlong
    rcases (hnumber _).1 ((h _).2 hwritten.spells) with ⟨-, hfits⟩ | ⟨_, hsigned, -⟩
    · exact hfits hlong
    · exact hsigned.not_spells hwritten.spells
  · -- what has a sign is a number, and so would be spelled
    have hvalue := (hnumber (.ofInt n)).2 (.inr ⟨n, hsigned, rfl⟩)
    exact hsigned.not_spells ((h _).1 hvalue)
  · rintro ⟨hfits, hunsigned⟩ v
    rw [hnumber]
    constructor
    · rintro (⟨hspells, -⟩ | ⟨n, hsigned, -⟩)
      · exact hspells
      · exact absurd hsigned (hunsigned n)
    · exact fun hspells => .inl ⟨hspells, hfits⟩

/-- The text `0x+1` is the number one and is not spelled as any. Digits of 65 bits
are not a number, and are spelled as one. -/
theorem not_readAsSpelled_signedOne :
    (toNumber (some (.string "0x+1")) = .ofInt 1 ∧ (∀ v, ¬ Spells (trim "0x+1".toList) v) ∧
      ¬ ReadAsSpelled "0x+1") ∧
    toNumber (some (.string "0x10000000000000000")) = .nan ∧
      Spells (trim "0x10000000000000000".toList) (.ofInt 18446744073709551616) ∧
      ¬ ReadAsSpelled "0x10000000000000000" := by
  have hsigned : Hexadecimal.Signed (trim "0x+1".toList) 1 :=
    ⟨'x', ['1'], .inl rfl, rfl, hexValue?_eq_some_iff.1 rfl, by decide⟩
  have hone : numberOfText "0x+1" = .ofInt 1 :=
    (numberOfText_eq_iff.2 (.inr ⟨1, hsigned, rfl⟩)).1
  have hnan : numberOfText "0x10000000000000000" = .nan := rfl
  have htext : trim "0x10000000000000000".toList = '0' :: 'x' :: "10000000000000000".toList := rfl
  have hspells : Spells (trim "0x10000000000000000".toList) (.ofInt 18446744073709551616) := by
    rw [htext]
    exact .hexadecimal (.inl rfl) (hexValue?_eq_some_iff.1 rfl)
  refine ⟨⟨hone, fun v => hsigned.not_spells, fun h => ?_⟩, hnan, hspells, fun h => ?_⟩
  · exact hsigned.not_spells ((h _).1 ⟨hone, Binary64.ofInt_ne_nan 1⟩)
  · exact hspells.ne_nan (((h _).2 hspells).1.symm.trans hnan)

end DocumentStore
