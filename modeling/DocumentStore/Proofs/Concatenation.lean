import DocumentStore.Proofs.Distinction
import DocumentStore.Proofs.Reading

/-!
# Concatenation — the text a value has in a sum

A sum with a text on either side is a concatenation. The other side is reduced
to its primitive form first, in which a number is a double; so an integer is
written as the nearest one of 53 binary digits (`Value.roughText`). Patterns and
loose equality with arrays are shown the integer itself (`Value.plainText`).

The two texts are the same for every value but an integer that is rounded
(`Value.roughText_eq_iff`), since no two integers have the same digits
(`integerText_injective`). Within arrays nothing is rounded on either side.
-/

namespace DocumentStore

/-! ## The digits of an integer -/

/-- Digits read back. -/
theorem decimalDigits_injective : Function.Injective decimalDigits := fun m n h => by
  rw [← Number.digitsValue_decimalDigits m, h, Number.digitsValue_decimalDigits]

/-- **No two integers have the same text.** -/
theorem integerText_injective : Function.Injective integerText := fun i j h => by
  -- a number's digits do not begin with a sign
  have hsign (m n : Nat) : '-' :: decimalDigits m ≠ decimalDigits n := fun heq => by
    have hmem : '-' ∈ decimalDigits n := heq ▸ List.mem_cons_self
    exact absurd (Number.isDigit_of_mem_decimalDigits hmem) (by decide)
  unfold integerText at h
  split at h <;> split at h
  · have := decimalDigits_injective (List.cons.inj h).2
    omega
  · exact absurd h (hsign _ _)
  · exact absurd h.symm (hsign _ _)
  · have := decimalDigits_injective h
    omega

/-- **The double of a number that represents an integer**, not too large, is
written with the digits of the integer. -/
theorem Number.Represents.plainText_eq {q : Number} {i : Int} (h : q.Represents i)
    (hsmall : i.natAbs < 1000000000000000000000) : q.toBinary64.plainText = integerText i := by
  obtain ⟨x, hx, hunits, hnegative⟩ := h
  have hmagnitude := Finite64.magnitude_of_units hunits
  have hwhole : x.isIntegral ∧ x.magnitude < 1000000000000000000000 * Finite64.one :=
    ⟨Finite64.isIntegral_of_units hunits, by
      rw [hmagnitude]
      exact Nat.mul_lt_mul_of_pos_right hsmall Finite64.one_pos⟩
  have hsign : x.negative = true ↔ i < 0 := by
    refine ⟨hnegative, fun hneg => ?_⟩
    rw [Finite64.negative_of_units hunits (Int.ne_of_lt hneg), decide_eq_true hneg]
  rw [hx, Binary64.plainText, Finite64.plainText, if_pos hwhole, hmagnitude,
    Nat.mul_div_cancel _ Finite64.one_pos, Finite64.signed, integerText]
  simp only [hsign]

/-! ## Texts of values -/

namespace Value

/-- The text a value has in a sum: an integer is rounded to 53 binary digits. -/
def roughText : Value → String
  | .number (.integer n) => String.ofList (integerText (nearest n.val))
  | v => v.plainText

/-- **The primitive form of a value has its rough text.** -/
theorem toText_ofValue (v : Value) : (Primitive.ofValue (some v)).toText = v.roughText := by
  cases v with
  | number n =>
    cases n with
    | integer n =>
      have hsmall := n.natAbs_nearest_le
      exact congrArg String.ofList (n.represents.plainText_eq (by omega))
    | float x => rfl
  | _ => rfl

/-- **The texts are the same** but for integers that are rounded. -/
theorem roughText_eq_iff {v : Value} :
    v.roughText = v.plainText ↔ ∀ n, v = .number (.integer n) → nearest n.val = n.val := by
  cases v with
  | number n =>
    cases n with
    | integer n =>
      constructor
      · rintro h m ⟨⟩
        exact integerText_injective (String.ofList_injective h)
      · intro h
        exact congrArg (String.ofList ∘ integerText) (h n rfl)
    | float x => exact iff_of_true rfl fun m h => nomatch h
  | _ => exact iff_of_true rfl fun m h => nomatch h

/-- An array of one value has the text of that value, if it is not null. -/
theorem plainText_singleton {v : Value} (h : v ≠ .null) : (array [v]).plainText = v.plainText := by
  have htexts : itemTexts [v] = [v.plainText] := by
    cases v with
    | null => exact absurd rfl h
    | _ => rfl
  rw [plainText, htexts, String.intercalate_singleton]

end Value

/-! ## Who reads which text -/

/-- A sum with a text behind a value. -/
theorem Arithmetic.add_text (v : Value) (s : String) :
    Arithmetic.add.apply (some v) (.string s) = .string (v.roughText ++ s) := by
  have hcoerced : add.apply (some v) (.string s) = add.coerced (some v) (.string s) := by
    cases v with
    | number n => cases n <;> rfl
    | _ => rfl
  rw [hcoerced, coerced, if_pos ⟨rfl, Bool.or_true _⟩, Value.toText_ofValue v]
  rfl

/-- A sum with a text before a value. -/
theorem Arithmetic.text_add (s : String) (v : Value) :
    Arithmetic.add.apply (some (.string s)) v = .string (s ++ v.roughText) := by
  have hcoerced : add.apply (some (.string s)) v = add.coerced (some (.string s)) v := rfl
  rw [hcoerced, coerced, if_pos ⟨rfl, Bool.true_or _⟩, Value.toText_ofValue v]
  rfl

/-- **An array or an object is loosely equal to its text**, and to no other. -/
theorem looseEq_container_text {v : Value} (h : v.isContainer = true) (t : String) :
    looseEq (some v) (some (.string t)) = true ↔ t = v.plainText := by
  have htexts : looseEq (some v) (some (.string t)) = (v.plainText == t) := by
    cases v with
    | array items => rfl
    | object members => rfl
    | _ => cases h
  rw [htexts, beq_iff_eq, eq_comm]

/-- **Which text a value has in a sum.** A sum with a text on either side is the
concatenation of the texts, where a value has its rough text. This is its plain
text, which patterns are matched with and which an array or object, or an array of
the value alone, is loosely equal to, just if the value is no integer that is
rounded. -/
theorem concatenates_plainText_iff (v : Value) (s : String) :
    let unrounded := ∀ n, v = .number (.integer n) → nearest n.val = n.val
    let behind := Arithmetic.add.apply (some v) (.string s)
    let before := Arithmetic.add.apply (some (.string s)) v
    (behind = .string (v.roughText ++ s) ∧ before = .string (s ++ v.roughText)) ∧
    (behind = .string (v.plainText ++ s) ↔ unrounded) ∧
    (before = .string (s ++ v.plainText) ↔ unrounded) ∧
    (∀ p : Pattern, (Criterion.pattern p).test (some v) = p.isMatch v.plainText) ∧
    (v.isContainer = true → ∀ t, looseEq (some v) (some (.string t)) = true ↔ t = v.plainText) ∧
    (v ≠ .null → ∀ t,
      looseEq (some (.array [v])) (some (.string t)) = true ↔ t = v.plainText) := by
  intro unrounded behind before
  have hbehind : behind = .string (v.roughText ++ s) := Arithmetic.add_text v s
  have hbefore : before = .string (s ++ v.roughText) := Arithmetic.text_add s v
  refine ⟨⟨hbehind, hbefore⟩, ?_, ?_, fun p => rfl, looseEq_container_text, fun hv t => ?_⟩
  · rw [hbehind, Value.string.injEq, String.append_left_inj]
    exact Value.roughText_eq_iff
  · rw [hbefore, Value.string.injEq, String.append_right_inj]
    exact Value.roughText_eq_iff
  · rw [looseEq_container_text rfl, Value.plainText_singleton hv]

/-- The last integer that is told apart from all others is written in full. -/
theorem concatenates_plainText_iff_lastExact :
    let v : Value := .number (.integer lastExact)
    v ≠ .null ∧ Arithmetic.add.apply (some v) (.string "x") = .string "9007199254740992x" ∧
      looseEq (some (.array [v])) (some (.string "9007199254740992")) = true := by
  intro v
  have hv : v ≠ .null := nofun
  have htext : v.plainText = "9007199254740992" := by decide +kernel
  obtain ⟨-, hbehind, -, -, -, halone⟩ := concatenates_plainText_iff v "x"
  refine ⟨hv, ?_, (halone hv _).2 htext.symm⟩
  refine (hbehind.2 fun n hn => ?_).trans (congrArg (fun t => Value.string (t ++ "x")) htext)
  obtain rfl : lastExact = n := Number.integer.inj (Value.number.inj hn)
  decide

/-- **Its successor is written like itself** in a sum, and with its own digits
everywhere else. -/
theorem not_concatenated_lastExact :
    let v : Value := .number (.integer ⟨9007199254740993, by decide, by decide⟩)
    v.plainText = "9007199254740993" ∧
      Arithmetic.add.apply (some v) (.string "") = .string "9007199254740992" ∧
      Arithmetic.add.apply (some (.string "")) v = .string "9007199254740992" ∧
      looseEq (some (.array [v])) (some (.string "9007199254740993")) = true := by
  intro v
  have hv : v ≠ .null := nofun
  have htext : v.plainText = "9007199254740993" := by decide +kernel
  have hrough : v.roughText = "9007199254740992" := by decide +kernel
  refine ⟨htext, ?_, ?_, ?_⟩
  · rw [Arithmetic.add_text, hrough, String.append_empty]
  · rw [Arithmetic.text_add, hrough, String.empty_append]
  · rw [looseEq_container_text rfl, Value.plainText_singleton hv, htext]

end DocumentStore
