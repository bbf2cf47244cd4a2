import DocumentStore.Proofs.Addition
import DocumentStore.Proofs.Equivalence
import DocumentStore.Proofs.Reading
import DocumentStore.Proofs.Spelling

/-!
# Lookup — documents found by their id

A filter that asks for an id as a text compares texts, so that it selects the one
document that has the id, if the view sees it: the one that the view's handle for the
id stands for (`View.visible_filter_byId`). A filter that asks for a number compares
numbers, so that it selects every document whose id is a text of a number with the
same double. The id that a document is stored under for an integer is such a text,
for every integer (`numberOfText_integerText`): it is rounded where the integer of
the filter is.
-/

namespace DocumentStore

/-! ## Integers read back from ids -/

/-- A decimal without an exponent is rounded as the integer it is. -/
theorem Binary64.ofDecimal_zero (i : Int) : ofDecimal (decide (i < 0)) i.natAbs 0 = ofInt i := by
  change (if i.natAbs = 0 then .finite (.zero (decide (i < 0)))
    else if 400 < 0 then .infinite (decide (i < 0))
    else ofRatio (decide (i < 0)) (i.natAbs * Nat.pow 10 0 * Finite64.one) 1) = ofInt i
  split
  · next hzero =>
    obtain rfl := Int.natAbs_eq_zero.1 hzero
    decide +kernel
  · have hone : Nat.pow 10 0 = 1 := rfl
    rw [if_neg (by decide), hone, Nat.mul_one, ofInt]

/-- Text without blanks is left as it is. -/
theorem trim_of_not_isBlank {text : List Char} (h : ∀ c ∈ text, ¬ isBlank c = true) :
    trim text = text := by
  have hkept (text : List Char) (h : ∀ c ∈ text, ¬ isBlank c = true) :
      text.dropWhile isBlank = text := by
    cases text with
    | nil => rfl
    | cons c rest => exact List.dropWhile_cons_of_neg (h c List.mem_cons_self)
  rw [trim, hkept text h, hkept _ fun c hc => h c (List.mem_reverse.1 hc), List.reverse_reverse]

/-- The text of an integer is made of digits, with a minus sign in front of them. -/
theorem mem_integerText {i : Int} {c : Char} (hc : c ∈ integerText i) :
    c.isDigit = true ∨ c = '-' := by
  unfold integerText at hc
  split at hc
  · rcases List.mem_cons.1 hc with rfl | hc
    · exact .inr rfl
    · exact .inl (Number.isDigit_of_mem_decimalDigits hc)
  · exact .inl (Number.isDigit_of_mem_decimalDigits hc)

/-- Digits and minus signs are not blank, nor do they mark hexadecimal digits. -/
theorem not_isBlank_of_isDigit {c : Char} (hc : c.isDigit = true ∨ c = '-') :
    ¬ isBlank c = true ∧ c ≠ 'x' ∧ c ≠ 'X' := by
  rcases hc with hc | rfl
  · have hle : 48 ≤ c.toNat ∧ c.toNat ≤ 57 := by
      simpa [Char.isDigit, Char.le_def, UInt32.le_iff_toNat_le] using hc
    refine ⟨fun hblank => ?_, ?_, ?_⟩
    · simp only [isBlank, Bool.or_eq_true, Bool.and_eq_true, decide_eq_true_eq, beq_iff_eq] at hblank
      omega
    · rintro rfl
      cases hc
    · rintro rfl
      cases hc
  · decide

/-- The text of an integer is a numeral of the integer. -/
theorem decimal_integerText (i : Int) :
    Numeral.Decimal (integerText i) ⟨decide (i < 0), i.natAbs, 0⟩ := by
  have hdigits : ∀ c ∈ decimalDigits i.natAbs, c.isDigit = true :=
    fun _ => Number.isDigit_of_mem_decimalDigits
  have hdecimal {sign : List Char} {negative : Bool} (hsign : Numeral.Sign sign negative) :=
    Numeral.Decimal.intro hsign hdigits .absent
      (List.append_ne_nil_of_left_ne_nil Nat.toDigits_ne_nil _) .absent
  simp only [List.append_nil, Number.digitsValue_decimalDigits] at hdecimal
  unfold integerText
  split
  · next hneg => 
    rw [decide_eq_true hneg]
    exact hdecimal .minus
  · next hneg =>
    rw [decide_eq_false hneg]
    exact hdecimal .absent

/-- **The text of an integer** stands for the double of the integer. -/
theorem numberOfText_integerText (i : Int) :
    numberOfText (String.ofList (integerText i)) = .ofInt i := by
  have htext : trim (String.ofList (integerText i)).toList = integerText i := by
    rw [String.toList_ofList]
    exact trim_of_not_isBlank fun c hc => (not_isBlank_of_isDigit (mem_integerText hc)).1
  have hmarked : ¬ Hexadecimal.Marked (integerText i) := by
    rintro ⟨mark, digits, hmark, h⟩
    have hmem : mark ∈ integerText i := by simp [h]
    have hne := (not_isBlank_of_isDigit (mem_integerText hmem)).2
    exact hmark.elim hne.1 hne.2
  have hspells : Spells (integerText i) (Numeral.value ⟨decide (i < 0), i.natAbs, 0⟩) :=
    .decimal (decimal_integerText i)
  rw [← htext] at hspells hmarked
  rw [numberOfText_of_spells hmarked hspells, Numeral.value]
  exact Binary64.ofDecimal_zero i

/-! ## Filters by id -/

/-- **A filter for an id**: the criterion on the field of the id is the id's text
itself, or equality with it, or membership in a list of it alone. -/
inductive ById (id : String) : Filter → Prop
  | literal : ById id (Filter.empty.field idField (.literal (.string id)))
  | eq : ById id (Filter.empty.field idField (.command (.eq (.string id))))
  | oneOf : ById id (Filter.empty.field idField (.command (.oneOf [.string id])))

/-- A value with the field of the id alone is read as a filter with that criterion. -/
theorem Filter.ofValue?_idField (v : Value) :
    ofValue? (.object [(idField, v)]) = .ok (empty.field idField (.literal v)) := by
  rw [ofValue?]
  · rfl
  · simp
  · simp

/-- The field of the id stands for the id, whatever the document has. -/
theorem Filter.test_idField (c : Criterion) (id : String) (doc : Document) :
    (empty.field idField c).test id doc = c.test (some (.string id)) := Bool.and_true _

/-- **A filter for an id** passes what has the id. -/
theorem ById.test {id : String} {f : Filter} (h : ById id f) (id' : String) (doc : Document) :
    f.test id' doc = (id' == id) := by
  cases h with
  | literal => exact Filter.test_idField _ id' doc
  | eq => exact Filter.test_idField _ id' doc
  | oneOf => exact (Filter.test_idField _ id' doc).trans (Bool.or_false _)

/-- A criterion that is an integer passes the ids that are texts of the same double. -/
theorem Filter.test_integer (k : WideInt) (id : String) (doc : Document) :
    (empty.field idField (.literal (.number (.integer k)))).test id doc =
      (numberOfText id).equal (.ofInt k.val) := Filter.test_idField _ id doc

namespace View

variable {v : View} {db : Database} {id : String} {f : Filter}

/-- **A filter for an id selects** what the view's handle for the id stands for. -/
theorem visible_filter_byId (h : v.Fits db) (hdb : db.Sound) (hf : ById id f) :
    (v.filter db f).visible db = (Option.map (id, ·) <| Handle.entry? (v.handle id) db).toList := by
  have hd := distinct_visible h (hdb.distinct v.root)
  rw [visible_filter h hdb, entry?_handle h (hdb.distinct v.root), ← Bindings.filter_key_eq hd]
  exact List.filter_congr fun e _ => hf.test e.1 e.2.fields

/-- It reads the document that the handle reads. -/
theorem get_filter_byId (h : v.Fits db) (hdb : db.Sound) (hf : ById id f) :
    (v.filter db f).get db = ((v.handle id).get? db).toList := by
  have hget : (v.filter db f).get db =
      ((v.filter db f).visible db).map fun e => e.2.fields.withId e.1 := rfl
  rw [hget, visible_filter_byId h hdb hf, Handle.get?]
  cases Handle.entry? (v.handle id) db <;> rfl

end View

namespace Session

variable {x : Session} {through id id' : String} {fields : Document} {r : RootId}

/-- A document is stored under the id that it asks for. -/
theorem Stores.eq_of_asks (h : x.Stores (.onView through (.add (.object fields))) r id)
    (hasks : fields.Asks id') : id = id' := by
  cases h with
  | @add _ _ v _ hview hid =>
    obtain ⟨fields', words, hedit⟩ := edit?_of_add hview hid
    obtain ⟨v', -, -, hedit⟩ := edit?_onView_eq_some_iff.1 hedit
    rw [View.edit?, Document.explicitId?_eq_some_iff.2 hasks] at hedit
    have hput := Option.some.inj (Option.ite_none_left_eq_some.1 hedit).2
    rw [Edit.put.injEq] at hput
    exact hput.2.1.symm
  | load ha _ _ => cases ha

/-- **Looking up an id through a filter is exact.** Of every view that is held, at
every moment from then on, a filter for an id, also one read from an object with the
id alone, selects the document that the view's handle for the id stands for, or
nothing if there is none; so this is what it reads.

A filter read from an object with an integer in the place of the id selects, of the
documents that the view sees, those with an id that is a text of the double of the
integer. Every document that was added with the integer in that place, and is still
seen, is one of them. -/
theorem lookup_is_exact (host : Host) (config : Config) (words : List UInt32)
    (actions : List Action) (n : Nat) (view : String) (v : View)
    (hview : ((start host config words).moment actions n).views.get? view = some v) (m : Nat)
    (hm : n ≤ m) :
    let x := start host config words
    let db := (x.moment actions m).database
    (∀ id f, ById id f →
      (v.filter db f).visible db = (Option.map (id, ·) <| Handle.entry? (v.handle id) db).toList ∧
      (v.filter db f).get db = ((v.handle id).get? db).toList) ∧
    (∀ id, ∃ f, ById id f ∧
      v.filterValue db (.object [(idField, .string id)]) = .ok (v.filter db f)) ∧
    ∀ k : WideInt, ∃ w,
      v.filterValue db (.object [(idField, .number (.integer k))]) = .ok w ∧
      (w.visible db = (v.visible db).filter fun e => (numberOfText e.1).equal (.ofInt k.val)) ∧
      ∀ i through (fields : Document) id e,
        actions[i]? = some (.onView through (.add (.object fields))) →
        fields.get? idField = some (.number (.integer k)) → Present x actions v.root id i m →
        (id, e) ∈ v.visible db → (id, e) ∈ w.visible db := by
  intro x db
  have hx : x.Sound := sound_start host config words
  have hdb : db.Sound := (hx.moment actions m).database
  have hfits : v.Fits db := (hx.view_moment hview hm).fits
  have hread (u : Value) : v.filterValue db (.object [(idField, u)]) =
      .ok (v.filter db (Filter.empty.field idField (.literal u))) := by
    rw [View.filterValue, Filter.ofValue?_idField]
    rfl
  refine ⟨fun id f hf => ⟨View.visible_filter_byId hfits hdb hf, View.get_filter_byId hfits hdb hf⟩,
    fun id => ⟨_, .literal, hread _⟩, fun k => ⟨_, hread _, ?_⟩⟩
  have hvisible := View.visible_filter hfits hdb
    (Filter.empty.field idField (.literal (.number (.integer k))))
  simp only [Filter.test_integer] at hvisible
  refine ⟨hvisible, fun i through fields id e ha hfield hpresent hmem => ?_⟩
  obtain ⟨-, ⟨a, ha', hstores⟩, -⟩ := hpresent
  obtain rfl := Option.some.inj (ha.symm.trans ha')
  have hid : id = (Number.integer k).exactText := hstores.eq_of_asks (.inr ⟨_, hfield, rfl⟩)
  have hsame : (numberOfText id).equal (.ofInt k.val) = true := by
    rw [hid, Number.exactText, numberOfText_integerText]
    exact (Number.integer k).equal_self
  rw [hvisible]
  exact List.mem_filter.2 ⟨hmem, hsame⟩

/-- An integer past what doubles tell apart. -/
def nextExact : WideInt := ⟨9007199254740993, by decide, by decide⟩

/-- A run that stores a document under that integer, and two whose ids are texts of
one number. -/
def numbering : List Action :=
  [.onStore .init, .onStore (.createCollection "t" "c"),
    .onView "c" (.add (.object [("_id", .number (.integer nextExact))])),
    .onView "c" (.add (.object [("_id", .string "1")])),
    .onView "c" (.add (.object [("_id", .string "01")]))]

/-- The moments of that run, on a host in memory. -/
def numberingAt (m : Nat) : Session := (start (.memory (.new none)) .manual []).moment numbering m

/-- Of the two texts of the number one, one is found by itself; and the document is
found by its integer. -/
theorem lookup_is_exact_numbering :
    let v : View := .whole 0 0 "t"
    let db := (numberingAt 5).database
    (numberingAt 2).views.get? "c" = some v ∧
      (v.filter db (Filter.empty.field idField (.literal (.string "1")))).visible db =
        [("1", ⟨2, []⟩)] ∧
      ∃ w, v.filterValue db (.object [(idField, .number (.integer nextExact))]) = .ok w ∧
        "9007199254740993" ∈ Bindings.keys (w.visible db) := by
  intro v db
  have hview : (numberingAt 2).views.get? "c" = some v := by cbv
  obtain ⟨hid, -, hinteger⟩ :=
    lookup_is_exact (.memory (.new none)) .manual [] numbering 2 "c" v hview 5 (by decide)
  obtain ⟨w, hw, -, hadded⟩ := hinteger nextExact
  refine ⟨hview, (hid "1" _ .literal).1.trans (by rfl), w, hw, ?_⟩
  have hstored : (numberingAt 2).step (.onView "c" (.add (.object
      [("_id", .number (.integer nextExact))]))) =
        (numberingAt 3, .ok (.id "9007199254740993")) := by cbv
  have hpresent : Present (start (.memory (.new none)) .manual []) numbering 0 "9007199254740993"
      2 5 := by
    refine ⟨by decide, ⟨_, rfl, .add hview (congrArg Prod.snd hstored)⟩, fun j a hj hjt ha hremoves => ?_⟩
    obtain rfl | rfl : j = 3 ∨ j = 4 := by omega
    all_goals
      obtain rfl := Option.some.inj ha
      cases hremoves
  have hkeys : Bindings.keys (v.visible db) = ["9007199254740993", "1", "01"] := by decide +kernel
  obtain ⟨e, he⟩ := Bindings.mem_keys_iff.1 (hkeys ▸ List.mem_cons_self)
  exact Bindings.mem_keys_iff.2 ⟨e, hadded 2 "c" _ _ _ rfl rfl hpresent he⟩

end Session

end DocumentStore
