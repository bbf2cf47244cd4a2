import DocumentStore.Proofs.Equivalence

/-!
# Replacement — loose equality step by step

Fields of unlike kinds are compared by replacing one of them, a truth value by a
number and an array or object by its text, until both are of kinds that compare
directly (`Compared`). Loose equality does it in one go: it takes the primitive forms
of both sides and compares these, as numbers unless they are two texts or two truth
values. A replacement leaves the primitive form as it is, or turns a truth value into
its number, which no comparison notices (`Primitive.looseEq_bool`); so whichever
replacement is made first, the answer is the same.

The text of an array has the leaves between commas, however deep they lie
(`Value.leafText`). Joining the texts of the items, which are joined themselves, gives
the same, since no item is without a leaf.
-/

namespace DocumentStore

/-! ## The text that stands for an array or object -/

namespace Value

mutual

/-- The texts at the leaves of a value, from left to right. A null leaf is blank, and
so is the place of an empty array. -/
def leafTexts : Value → List String
  | .null => [""]
  | .bool b => [if b then "true" else "false"]
  | .number n => [n.plainText]
  | .string s => [s]
  | .array [] => [""]
  | .array (v :: rest) => leafTexts v ++ itemLeafTexts rest
  | .object _ => ["[object Object]"]

/-- The texts at the leaves of several values. -/
def itemLeafTexts : List Value → List String
  | [] => []
  | v :: rest => leafTexts v ++ itemLeafTexts rest

end

/-- The leaves of a value between commas. -/
def leafText (v : Value) : String := ",".intercalate v.leafTexts

/-- No value is without a leaf. -/
theorem leafTexts_ne_nil (v : Value) : v.leafTexts ≠ [] := by
  induction v using Value.induction with
  | array items ih =>
    cases items with
    | nil => exact List.cons_ne_nil _ _
    | cons v rest => exact List.append_ne_nil_of_left_ne_nil (ih v List.mem_cons_self) _
  | _ => exact List.cons_ne_nil _ _

/-- The items of an array, each with its leaves between commas, between commas. -/
theorem intercalate_leafText (items : List Value) :
    ",".intercalate (items.map leafText) = (array items).leafText := by
  induction items with
  | nil => rfl
  | cons v rest ih =>
    cases rest with
    | nil =>
      have hleaves : leafTexts (array [v]) = leafTexts v := List.append_nil _
      rw [leafText, hleaves]
      exact String.intercalate_singleton
    | cons w rest =>
      have hleaves : leafTexts (array (v :: w :: rest)) =
          leafTexts v ++ leafTexts (array (w :: rest)) := rfl
      have hrest : (w :: rest).map leafText ≠ [] := List.cons_ne_nil _ _
      rw [List.map_cons, String.intercalate_cons_of_ne_nil hrest, ih, leafText, leafText, leafText,
        hleaves, String.intercalate_append_of_ne_nil (leafTexts_ne_nil v) (leafTexts_ne_nil _)]

/-- **The text of a value** has its leaves between commas, unless the value is null
and no item of an array. -/
theorem plainText_eq_leafText {v : Value} (hv : v ≠ .null) : v.plainText = v.leafText := by
  induction v using Value.induction with
  | array items ih =>
    have htexts : itemTexts items = items.map leafText := by
      clear hv
      induction items with
      | nil => rfl
      | cons v rest ihrest =>
        have hrest := ihrest fun w hw => ih w (List.mem_cons_of_mem _ hw)
        have hitem := ih v List.mem_cons_self
        cases v with
        | null => exact congrArg ("" :: ·) hrest
        | _ => exact congrArg₂ List.cons (hitem (nomatch ·)) hrest
    rw [plainText, htexts, intercalate_leafText]
  | null => exact absurd rfl hv
  | _ => exact String.intercalate_singleton.symm

theorem plainText_container {v : Value} (hv : v.isContainer = true) : v.plainText = v.leafText := by
  refine plainText_eq_leafText ?_
  rintro rfl
  cases hv

end Value

/-- The number that stands for a truth value. -/
def Number.ofBool : Bool → Number
  | false => .integer ⟨0, by decide, by decide⟩
  | true => .integer ⟨1, by decide, by decide⟩

/-! ## The comparison -/

open Command (isPresent)

/-- **Comparison by replacement.** What is missing equals what is missing and nothing
else. Two truth values, two texts and two numbers, which are doubles, compare as what
they are, and a number with the number a text stands for. Anything else is replaced:
a truth value by a number, and an array or object by its text where the other side is
neither. -/
inductive Compared : Option Value → Option Value → Bool → Prop
  | missing {a b : Option Value} (ha : isPresent a = false) (hb : isPresent b = false) :
      Compared a b true
  | oneMissing {a b : Option Value} (h : isPresent a ≠ isPresent b) : Compared a b false
  | bools (x y : Bool) : Compared (some (.bool x)) (some (.bool y)) (x == y)
  | strings (s t : String) : Compared (some (.string s)) (some (.string t)) (s == t)
  | numbers (m n : Number) :
      Compared (some (.number m)) (some (.number n)) (m.toBinary64.equal n.toBinary64)
  | numberString (n : Number) (s : String) :
      Compared (some (.number n)) (some (.string s)) (n.toBinary64.equal (numberOfText s))
  | stringNumber (s : String) (n : Number) :
      Compared (some (.string s)) (some (.number n)) ((numberOfText s).equal n.toBinary64)
  | boolLeft {x : Bool} {b : Option Value} {r : Bool}
      (h : Compared (some (.number (.ofBool x))) b r) : Compared (some (.bool x)) b r
  | boolRight {a : Option Value} {y : Bool} {r : Bool}
      (h : Compared a (some (.number (.ofBool y))) r) : Compared a (some (.bool y)) r
  | containerLeft {v : Value} {b : Option Value} {r : Bool} (hv : v.isContainer = true)
      (hb : ∀ w ∈ b, w.isContainer = false) (h : Compared (some (.string v.leafText)) b r) :
      Compared (some v) b r
  | containerRight {a : Option Value} {w : Value} {r : Bool} (ha : ∀ v ∈ a, v.isContainer = false)
      (hw : w.isContainer = true) (h : Compared a (some (.string w.leafText)) r) :
      Compared a (some w) r

namespace Primitive

theorem isMissing_ofValue (a : Option Value) : (ofValue a).isMissing = !isPresent a := by
  cases a with
  | none => rfl
  | some v => cases v <;> rfl

theorem ofValue_container {v : Value} (hv : v.isContainer = true) :
    ofValue (some v) = ofValue (some (.string v.leafText)) := by
  rw [← Value.plainText_container hv]
  cases v with
  | array items => rfl
  | object members => rfl
  | _ => cases hv

/-- What is missing equals only what is missing. -/
theorem looseEq_of_isMissing {p q : Primitive} (hq : q.isMissing = true) :
    p.looseEq q = p.isMissing := by
  unfold looseEq
  rw [hq, Bool.or_true, Bool.and_true]
  exact if_pos rfl

/-- **A truth value compares as its number**, also with another truth value. -/
theorem looseEq_bool (x : Bool) (p : Primitive) :
    (bool x).looseEq p = (number (Number.ofBool x).toBinary64).looseEq p := by
  have hnumber : (bool x).toNumber = (Number.ofBool x).toBinary64 := by cases x <;> rfl
  cases p with
  | absent => rw [looseEq_of_isMissing rfl, looseEq_of_isMissing rfl]; rfl
  | null => rw [looseEq_of_isMissing rfl, looseEq_of_isMissing rfl]; rfl
  | bool y => cases x <;> cases y <;> decide +kernel
  | number z => exact congrArg (Binary64.equal · z) hnumber
  | text s => exact congrArg (Binary64.equal · (numberOfText s)) hnumber

end Primitive

namespace Compared

variable {a b : Option Value} {r : Bool}

/-- Two containers are not compared by replacement. -/
theorem not_containers (h : Compared a b r) {v w : Value} (hv : v ∈ a) (hw : w ∈ b)
    (hcontainer : v.isContainer = true) : w.isContainer = false := by
  have hnone {u : Option Value} (hu : isPresent u = false) : ∀ v ∈ u, v.isContainer = false := by
    rintro v rfl
    cases v with
    | null => rfl
    | _ => cases hu
  cases h with
  | missing ha hb => exact hnone hb w hw
  | oneMissing h =>
    cases hb : isPresent b with
    | false => exact hnone hb w hw
    | true =>
      have ha : isPresent a = false := by simpa [hb] using h
      exact absurd hcontainer (by simp [hnone ha v hv])
  | containerLeft _ hb _ => exact hb w hw
  | containerRight ha _ _ => exact absurd hcontainer (by simp [ha v hv])
  | boolRight _ => cases hw; rfl
  | _ => cases hv; cases hcontainer

/-- **What replacement finds**, the primitive forms have: each rule keeps it. -/
theorem looseEq_ofValue (h : Compared a b r) :
    (Primitive.ofValue a).looseEq (Primitive.ofValue b) = r := by
  induction h with
  | missing ha hb =>
    rw [Primitive.looseEq_of_isMissing (by rw [Primitive.isMissing_ofValue, hb]; rfl),
      Primitive.isMissing_ofValue, ha]
    rfl
  | @oneMissing a b h =>
    unfold Primitive.looseEq
    rw [Primitive.isMissing_ofValue, Primitive.isMissing_ofValue]
    cases ha : isPresent a <;> cases hb : isPresent b
    · exact absurd (ha.trans hb.symm) h
    · rfl
    · rfl
    · exact absurd (ha.trans hb.symm) h
  | bools x y => rfl
  | strings s t => rfl
  | numbers m n => rfl
  | numberString n s => rfl
  | stringNumber s n => rfl
  | boolLeft _ ih => exact (Primitive.looseEq_bool _ _).trans ih
  | boolRight _ ih =>
    rw [Primitive.looseEq_comm] at ih ⊢
    exact (Primitive.looseEq_bool _ _).trans ih
  | containerLeft hv _ _ ih => rwa [Primitive.ofValue_container hv]
  | containerRight _ hw _ ih => rwa [Primitive.ofValue_container hw]

/-- A number is compared with anything, -/
theorem exists_number (n : Number) (b : Option Value) : ∃ r, Compared (some (.number n)) b r := by
  have hcontainer {w : Value} (hw : w.isContainer = true) :
      ∃ r, Compared (some (.number n)) (some w) r :=
    ⟨_, .containerRight (by rintro v ⟨⟩; rfl) hw (.numberString n _)⟩
  cases b with
  | none => exact ⟨false, .oneMissing (nomatch ·)⟩
  | some w =>
    cases w with
    | null => exact ⟨false, .oneMissing (nomatch ·)⟩
    | bool y => exact ⟨_, .boolRight (.numbers n _)⟩
    | number m => exact ⟨_, .numbers n m⟩
    | string s => exact ⟨_, .numberString n s⟩
    | array items => exact hcontainer rfl
    | object members => exact hcontainer rfl

/-- and so is a text. -/
theorem exists_string (s : String) (b : Option Value) : ∃ r, Compared (some (.string s)) b r := by
  have hcontainer {w : Value} (hw : w.isContainer = true) :
      ∃ r, Compared (some (.string s)) (some w) r :=
    ⟨_, .containerRight (by rintro v ⟨⟩; rfl) hw (.strings s _)⟩
  cases b with
  | none => exact ⟨false, .oneMissing (nomatch ·)⟩
  | some w =>
    cases w with
    | null => exact ⟨false, .oneMissing (nomatch ·)⟩
    | bool y => exact ⟨_, .boolRight (.stringNumber s _)⟩
    | number m => exact ⟨_, .stringNumber s m⟩
    | string t => exact ⟨_, .strings s t⟩
    | array items => exact hcontainer rfl
    | object members => exact hcontainer rfl

/-- **Replacement comes to an end** for all fields but two containers. -/
theorem exists_answer (a b : Option Value)
    (h : ∀ v ∈ a, ∀ w ∈ b, v.isContainer = true → w.isContainer = false) :
    ∃ r, Compared a b r := by
  have hmissing (ha : isPresent a = false) : ∃ r, Compared a b r := by
    cases hb : isPresent b with
    | false => exact ⟨true, .missing ha hb⟩
    | true => exact ⟨false, .oneMissing (by simp [ha, hb])⟩
  have hcontainer {v : Value} (hv : v.isContainer = true) (ha : v ∈ a) :
      ∃ r, Compared (some v) b r := by
    obtain ⟨r, hr⟩ := exists_string v.leafText b
    exact ⟨r, .containerLeft hv (fun w hw => h v ha w hw hv) hr⟩
  cases a with
  | none => exact hmissing rfl
  | some v =>
    cases v with
    | null => exact hmissing rfl
    | bool x =>
      obtain ⟨r, hr⟩ := exists_number (.ofBool x) b
      exact ⟨r, .boolLeft hr⟩
    | number n => exact exists_number n b
    | string s => exact exists_string s b
    | array items => exact hcontainer rfl rfl
    | object members => exact hcontainer rfl rfl

end Compared

/-- **Loose equality is comparison by replacement**, for all fields but two
containers: each pair has one answer, whichever replacement is made first, and loose
equality gives it. -/
theorem looseEq_by_replacement (a b : Option Value) (r : Bool) :
    Compared a b r ↔ (∀ v ∈ a, ∀ w ∈ b, v.isContainer = true → w.isContainer = false) ∧
      looseEq a b = r := by
  have hprimitive (h : ∀ v ∈ a, ∀ w ∈ b, v.isContainer = true → w.isContainer = false) :
      looseEq a b = (Primitive.ofValue a).looseEq (Primitive.ofValue b) := by
    cases a with
    | none => rfl
    | some v =>
      cases b with
      | none => rfl
      | some w =>
        refine if_neg fun hboth => ?_
        obtain ⟨hv, hw⟩ := Bool.and_eq_true_iff.1 hboth
        rw [h v rfl w rfl hv] at hw
        cases hw
  constructor
  · intro h
    have hapart : ∀ v ∈ a, ∀ w ∈ b, v.isContainer = true → w.isContainer = false :=
      fun v hv w hw => h.not_containers hv hw
    exact ⟨hapart, (hprimitive hapart).trans h.looseEq_ofValue⟩
  · rintro ⟨hapart, rfl⟩
    obtain ⟨r, hr⟩ := Compared.exists_answer a b hapart
    rwa [hprimitive hapart, hr.looseEq_ofValue]

/-- An array of arrays with null leaves is a number by its text, and a truth value. -/
example : looseEq (some (.array [.array [.null], .array []])) (some (.string ",")) = true ∧
    looseEq (some (.array [.array [.null]])) (some (.bool false)) = true := by decide +kernel

end DocumentStore
