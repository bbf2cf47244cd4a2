import DocumentStore.Value.Printer
import DocumentStore.Value.Reader
import Mathlib.Data.List.TakeWhile

/-!
# Reading — strings and numbers are read back

What is written of a string is read back, whatever its characters are: each
character by its own written form (`Quoted.read?_encodeChar`), and so the text
up to the closing quote (`Quoted.read?_encode`).

A number is read from the front of a text without regard to what closes the
value behind it (`Number.read?_append`), so that a number whose own text is read
back (`Number.ReadsBack`) is read back everywhere. Integers always are
(`Number.readsBack_integer`). Doubles are where the digits they are written with
scale back to them; the scaling may be one place off, so this is no law.
-/

namespace DocumentStore

/-! ## Strings -/

namespace Quoted

variable {c : Char} {text rest : List Char}

/-- A text that was read, behind a character. -/
def precede (c : Char) (found : Option (List Char × List Char)) : Option (List Char × List Char) :=
  found.map fun (text, after) => (c :: text, after)

theorem read?_plain (hquote : c ≠ '"') (hbackslash : c ≠ '\\') (hc : 0x20 ≤ c.toNat)
    (rest : List Char) : read? (c :: rest) = precede c (read? rest) := by
  rw [read?]
  · simp only [Nat.not_lt.2 hc, hbackslash, decide_false, beq_iff_eq, Bool.or_eq_true]
    cases read? rest <;> rfl
  · exact hquote
  · simp [hbackslash]
  · simp [hbackslash]
  · simp [hbackslash]

theorem read?_simple {escape : Char} (h : simpleEscape? escape = some c) (rest : List Char) :
    read? ('\\' :: escape :: rest) = precede c (read? rest) := by
  have hu : escape ≠ 'u' := by rintro rfl; cases h
  rw [read?]
  · simp only [h, Option.bind_some, bind]
    cases read? rest <;> rfl
  · simp [hu]
  · simp [hu]

/-- A unit that is no surrogate is read by itself, whatever comes next. -/
theorem read?_unit {a b d e : Char} {n : Nat} (hn : unit? a b d e = some n)
    (hc : singleUnit? n = some c) (rest : List Char) :
    read? ('\\' :: 'u' :: a :: b :: d :: e :: rest) = precede c (read? rest) := by
  by_cases hpair : ∃ a' b' d' e' rest', rest = '\\' :: 'u' :: a' :: b' :: d' :: e' :: rest'
  · obtain ⟨a', b', d', e', rest', rfl⟩ := hpair
    rw [read?]
    simp only [hn, Option.bind_some, bind, hc]
    cases read? _ <;> rfl
  · rw [read?]
    · simp only [hn, Option.bind_some, bind, hc]
      cases read? rest <;> rfl
    · exact fun a' b' d' e' rest' h => hpair ⟨a', b', d', e', rest', h⟩

theorem hexDigit?_hexChar (n : Nat) : hexDigit? (hexChar n) = some (n % 16) := by
  have h : ∀ d < 16, hexDigit? (Nat.digitChar d) = some d := by decide
  exact h (n % 16) (Nat.mod_lt n (by decide))

theorem unit?_hexChar {n : Nat} (h : n < 0x20) :
    unit? '0' '0' (hexChar (n / 16)) (hexChar n) = some n := by
  have hzero : hexDigit? '0' = some 0 := by decide
  simp only [unit?, hexValue?, List.isEmpty_cons, Bool.false_eq_true, if_false, List.foldlM_cons,
    List.foldlM_nil, hzero, hexDigit?_hexChar, Option.map_some, bind, Option.bind, pure]
  congr 1
  omega

/-- **A character is read back** from its written form. -/
theorem read?_encodeChar (c : Char) (rest : List Char) :
    read? (encodeChar c ++ rest) = precede c (read? rest) := by
  unfold encodeChar
  split
  case h_8 hquote hbackslash _ _ _ _ _ =>
    split
    · next hlow =>
      refine read?_unit (unit?_hexChar hlow) ?_ rest
      rw [singleUnit?, if_neg (by omega), Char.ofNat_toNat]
    · next hhigh => exact read?_plain hquote hbackslash (Nat.not_lt.1 hhigh) rest
  all_goals exact read?_simple rfl rest

/-- **A text is read back** from between its quotes. -/
theorem read?_encode (text rest : List Char) :
    read? (text.flatMap encodeChar ++ '"' :: rest) = some (text, rest) := by
  induction text with
  | nil => rw [List.flatMap_nil, List.nil_append, read?]
  | cons c text ih =>
    rw [List.flatMap_cons, List.append_assoc, read?_encodeChar, ih]
    rfl

end Quoted

/-! ## Numbers within a text -/

/-- What may stand behind a value: nothing, or what parts or closes values. -/
def Closes (rest : List Char) : Prop := ∀ c ∈ rest.head?, c = ',' ∨ c = ']' ∨ c = '\x7d'

variable {text rest : List Char}

theorem closes_nil : Closes [] := nofun

theorem closes_cons {c : Char} (hc : c = ',' ∨ c = ']' ∨ c = '\x7d') (rest : List Char) :
    Closes (c :: rest) := by
  rintro _ ⟨⟩
  exact hc

theorem Numeral.splitDigits_append (hrest : Closes rest) (text : List Char) :
    splitDigits (text ++ rest) = ((splitDigits text).1, (splitDigits text).2 ++ rest) := by
  have hnone : rest.takeWhile Char.isDigit = [] ∧ rest.dropWhile Char.isDigit = rest := by
    cases rest with
    | nil => exact ⟨rfl, rfl⟩
    | cons c rest => rcases hrest c rfl with rfl | rfl | rfl <;> exact ⟨rfl, rfl⟩
  induction text with
  | nil => exact Prod.ext hnone.1 hnone.2
  | cons c text ih =>
    simp only [splitDigits, Prod.mk.injEq] at ih ⊢
    rw [List.cons_append, List.takeWhile_cons, List.takeWhile_cons, List.dropWhile_cons,
      List.dropWhile_cons]
    split
    · exact ⟨congrArg (c :: ·) ih.1, ih.2⟩
    · exact ⟨rfl, rfl⟩

theorem splitSign_append (hrest : Closes rest) (text : List Char) :
    splitSign (text ++ rest) = ((splitSign text).1, (splitSign text).2 ++ rest) := by
  cases text with
  | nil =>
    cases rest with
    | nil => rfl
    | cons c rest => rcases hrest c rfl with rfl | rfl | rfl <;> rfl
  | cons c text =>
    rw [List.cons_append]
    unfold splitSign
    split
    · next heq => cases heq; rfl
    · next heq => cases heq; rfl
    · next hminus hplus =>
      split
      · next heq => cases heq; exact absurd rfl (hminus _)
      · next heq => cases heq; exact absurd rfl (hplus _)
      · rfl

namespace Number

theorem fraction?_append (hrest : Closes rest) {digits after : List Char}
    (h : fraction? text = some (digits, after)) :
    fraction? (text ++ rest) = some (digits, after ++ rest) := by
  cases text with
  | nil =>
    cases h
    cases rest with
    | nil => rfl
    | cons c rest => rcases hrest c rfl with rfl | rfl | rfl <;> rfl
  | cons c body =>
    by_cases hpoint : c = '.'
    · subst hpoint
      simp only [fraction?, List.cons_append, Numeral.splitDigits_append hrest] at h ⊢
      split at h
      · cases h
      · next hdigits =>
        cases h
        rw [if_neg hdigits]
    · have hnone (body : List Char) : fraction? (c :: body) = some ([], c :: body) := by
        rw [fraction?]
        simpa using hpoint
      rw [hnone] at h
      cases h
      exact hnone (body ++ rest)

theorem exponent?_append (hrest : Closes rest) {exponent : Option Int} {after : List Char}
    (h : exponent? text = some (exponent, after)) :
    exponent? (text ++ rest) = some (exponent, after ++ rest) := by
  cases text with
  | nil =>
    cases h
    cases rest with
    | nil => rfl
    | cons c rest => rcases hrest c rfl with rfl | rfl | rfl <;> rfl
  | cons mark body =>
    simp only [exponent?, List.cons_append, splitSign_append hrest,
      Numeral.splitDigits_append hrest] at h ⊢
    split at h
    · next hmark =>
      rw [if_pos hmark]
      split at h
      · cases h
      · next hdigits =>
        cases h
        rw [if_neg hdigits]
    · next hmark =>
      cases h
      rw [if_neg hmark]
      rfl

/-- The number of its parts, an integer if there is neither a fraction nor an
exponent and it fits. -/
def ofParts? (negative : Bool) (whole fraction : List Char) (exponent : Option Int) :
    Option Number :=
  if fraction.isEmpty && exponent.isNone then
    match integer? negative whole with
    | some n => some n
    | none => float? negative whole [] 0
  else float? negative whole fraction (exponent.getD 0)

/-- Reads a number behind its sign. -/
def unsigned? (negative : Bool) (text : List Char) : Option (Number × List Char) :=
  let whole := (Numeral.splitDigits text).1
  if whole.isEmpty || (whole.head? == some '0' && 1 < whole.length) then none
  else (fraction? (Numeral.splitDigits text).2).bind fun (fraction, text) =>
    (exponent? text).bind fun (exponent, text) =>
      (ofParts? negative whole fraction exponent).map (·, text)

/-- **A number is a sign, if there is one, and what is behind it.** -/
theorem read?_eq (text : List Char) : ∃ negative body, read? text = unsigned? negative body ∧
    (text = '-' :: body ∧ negative = true ∨
      text = body ∧ negative = false ∧ ∀ rest, text ≠ '-' :: rest) := by
  unfold read?
  split
  next negative body hsign =>
  refine ⟨negative, body, ?_, ?_⟩
  · unfold unsigned? ofParts?
    dsimp only
    split
    · rfl
    cases fraction? (Numeral.splitDigits body).2 with
    | none => rfl
    | some found =>
      simp only [Option.bind_some, bind]
      cases exponent? found.2 with
      | none => rfl
      | some found' =>
        simp only [Option.bind_some]
        split
        · cases integer? negative (Numeral.splitDigits body).1 with
          | some n => rfl
          | none => cases float? negative (Numeral.splitDigits body).1 [] 0 <;> rfl
        · cases float? negative (Numeral.splitDigits body).1 found.1 (found'.1.getD 0) <;> rfl
  · split at hsign
    · cases hsign
      exact .inl ⟨rfl, rfl⟩
    · next hminus =>
      cases hsign
      exact .inr ⟨rfl, rfl, hminus⟩

theorem read?_minus (text : List Char) : read? ('-' :: text) = unsigned? true text := by
  obtain ⟨negative, body, hread, ⟨heq, rfl⟩ | ⟨-, -, hnone⟩⟩ := read?_eq ('-' :: text)
  · cases heq
    exact hread
  · exact absurd rfl (hnone text)

theorem read?_of_ne (h : ∀ rest, text ≠ '-' :: rest) : read? text = unsigned? false text := by
  obtain ⟨negative, body, hread, ⟨heq, -⟩ | ⟨rfl, rfl, -⟩⟩ := read?_eq text
  · exact absurd heq (h body)
  · exact hread

theorem unsigned?_append (hrest : Closes rest) {negative : Bool} {n : Number} {after : List Char}
    (h : unsigned? negative text = some (n, after)) :
    unsigned? negative (text ++ rest) = some (n, after ++ rest) := by
  unfold unsigned? at h ⊢
  rw [Numeral.splitDigits_append hrest]
  dsimp only at h ⊢
  split at h
  · cases h
  · next hwhole =>
    rw [if_neg hwhole]
    obtain ⟨⟨fraction, text₁⟩, hfraction, h⟩ := Option.bind_eq_some_iff.1 h
    obtain ⟨⟨exponent, text₂⟩, hexponent, h⟩ := Option.bind_eq_some_iff.1 h
    obtain ⟨n, hn, heq⟩ := Option.map_eq_some_iff.1 h
    cases heq
    simp only [fraction?_append hrest hfraction, exponent?_append hrest hexponent, Option.bind_some,
      hn, Option.map_some]

/-- **A number is read from the front of a text** as from a text of its own, if
what is behind it closes a value. -/
theorem read?_append (hrest : Closes rest) {n : Number} {after : List Char}
    (h : read? text = some (n, after)) : read? (text ++ rest) = some (n, after ++ rest) := by
  by_cases hminus : ∃ body, text = '-' :: body
  · obtain ⟨body, rfl⟩ := hminus
    rw [read?_minus] at h
    rw [List.cons_append, read?_minus]
    exact unsigned?_append hrest h
  · have hne : ∀ body, text ≠ '-' :: body := fun body heq => hminus ⟨body, heq⟩
    have hne' : ∀ body, text ++ rest ≠ '-' :: body := by
      intro body heq
      cases text with
      | nil => cases h
      | cons c text => cases heq; exact hne text rfl
    rw [read?_of_ne hne] at h
    rw [read?_of_ne hne']
    exact unsigned?_append hrest h

/-! ## Numbers that are read back -/

/-- **A number is read back** from its own text. -/
def ReadsBack (n : Number) : Prop := read? n.exactText.toList = some (n, [])

instance (n : Number) : Decidable n.ReadsBack := inferInstanceAs (Decidable (_ = _))

/-- And then from every text in which it is a value. -/
theorem ReadsBack.append {n : Number} (h : n.ReadsBack) (hrest : Closes rest) :
    read? (n.exactText.toList ++ rest) = some (n, rest) :=
  read?_append hrest h

/-- What is read begins like a number. -/
theorem ReadsBack.begins {n : Number} (h : n.ReadsBack) :
    ∃ c text, n.exactText.toList = c :: text ∧ (c = '-' ∨ c.isDigit = true) := by
  unfold ReadsBack at h
  by_cases hminus : ∃ body, n.exactText.toList = '-' :: body
  · obtain ⟨body, heq⟩ := hminus
    exact ⟨'-', body, heq, .inl rfl⟩
  · rw [read?_of_ne fun body heq => hminus ⟨body, heq⟩] at h
    cases htext : n.exactText.toList with
    | nil => rw [htext] at h; cases h
    | cons c text =>
      refine ⟨c, text, rfl, .inr ?_⟩
      -- behind no sign there is a digit
      by_contra hdigit
      rw [htext, unsigned?, Numeral.splitDigits, List.takeWhile_cons_of_neg hdigit] at h
      cases h

theorem digitsValue_decimalDigits (n : Nat) : digitsValue (decimalDigits n) 0 = n := by
  have h : Nat.ofDigitChars 10 (Nat.toDigits 10 n) 0 = n :=
    Nat.ofDigitChars_toDigits (by decide) (by decide)
  rwa [Nat.ofDigitChars_eq_foldl] at h

theorem isDigit_of_mem_decimalDigits {n : Nat} {c : Char} (hc : c ∈ decimalDigits n) :
    c.isDigit = true := Nat.isDigit_of_mem_toDigits (by decide) (by decide) hc

theorem splitDigits_decimalDigits (n : Nat) :
    Numeral.splitDigits (decimalDigits n) = (decimalDigits n, []) := by
  have hdigits : ∀ c ∈ decimalDigits n, c.isDigit = true := fun _ => isDigit_of_mem_decimalDigits
  exact Prod.ext (List.takeWhile_eq_self_iff.2 hdigits) (List.dropWhile_eq_nil_iff.2 hdigits)

/-- No number but zero is written with a zero in front. -/
theorem head?_decimalDigits {n : Nat} (hn : n ≠ 0) : (decimalDigits n).head? ≠ some '0' := by
  induction n using Nat.strongRecOn with
  | ind n ih =>
    unfold decimalDigits
    by_cases hlt : n < 10
    · rw [Nat.toDigits_of_lt_base hlt]
      have hdigit : ∀ d < 10, d ≠ 0 → [Nat.digitChar d].head? ≠ some '0' := by decide
      exact hdigit n hlt hn
    · rw [Nat.toDigits_of_base_le (by decide) (Nat.not_lt.1 hlt), List.head?_append]
      have hrest := ih (n / 10) (by omega) (by omega)
      rw [decimalDigits] at hrest
      cases hhead : (Nat.toDigits 10 (n / 10)).head? with
      | none => exact absurd (List.head?_eq_none_iff.1 hhead) Nat.toDigits_ne_nil
      | some c => rwa [hhead] at hrest

/-- The digits of an integer are read as one. -/
theorem unsigned?_decimalDigits {negative : Bool} {n : Nat} {result : Number}
    (h : integer? negative (decimalDigits n) = some result) :
    unsigned? negative (decimalDigits n) = some (result, []) := by
  have hwhole : ¬ ((decimalDigits n).isEmpty ||
      ((decimalDigits n).head? == some '0' && 1 < (decimalDigits n).length)) = true := by
    by_cases hn : n = 0
    · subst hn
      decide
    · have hne : decimalDigits n ≠ [] := Nat.toDigits_ne_nil
      simp [hne, head?_decimalDigits hn]
  unfold unsigned?
  rw [splitDigits_decimalDigits]
  dsimp only
  rw [if_neg hwhole]
  simp [fraction?, exponent?, ofParts?, h]

/-- **Integers are read back.** -/
theorem readsBack_integer (n : WideInt) : (Number.integer n).ReadsBack := by
  unfold ReadsBack exactText
  rw [String.toList_ofList, integerText]
  by_cases hneg : n.val < 0
  · have hvalue : -(n.val.natAbs : Int) = n.val := by omega
    have hne : n.val.natAbs ≠ 0 := by omega
    rw [if_pos hneg, read?_minus]
    refine unsigned?_decimalDigits ?_
    simp only [integer?, digitsValue_decimalDigits, if_true, if_neg hne, hvalue, WideInt.ofInt?_val,
      Option.map_some]
  · have hvalue : (n.val.natAbs : Int) = n.val := by omega
    have hdigits : ∀ text, decimalDigits n.val.natAbs ≠ '-' :: text := by
      intro text htext
      have hminus : '-' ∈ decimalDigits n.val.natAbs := htext ▸ List.mem_cons_self
      cases isDigit_of_mem_decimalDigits hminus
    rw [if_neg hneg, read?_of_ne hdigits]
    refine unsigned?_decimalDigits ?_
    simp only [integer?, digitsValue_decimalDigits, Bool.false_eq_true, if_false, hvalue,
      WideInt.ofInt?_val, Option.map_some]

end Number

end DocumentStore
