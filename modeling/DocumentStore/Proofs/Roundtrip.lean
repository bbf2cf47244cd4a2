import DocumentStore.Proofs.Reading

/-!
# Round trip — values are read back as deep as they may be

A value is read back if it has no key twice, its numbers are read back
(`Legible`), and it is no deeper than the reader goes; what is deeper is
refused (`Legible.read?_print`). The reader meets the text of a value with
more text behind it, and leaves that (`RoundTrips`). An array is read back
if its items are, up to the bracket that closes them (`readItems_itemsText`),
an object if the values of its members are (`readMembers_membersText`), and
so, by induction, is every legible value (`Legible.roundTrips`).
-/

namespace DocumentStore

/-- Reading back bindings of distinct keys gives them. -/
theorem Bindings.ofPairs_eq_self {α : Type} {m : Bindings α} (hd : Distinct m) : ofPairs m = m :=
  insertAll_eq_append (m := []) hd

theorem skipSpace_of_not {c : Char} (h : c ≠ ' ' ∧ c ≠ '\n' ∧ c ≠ '\r' ∧ c ≠ '\t')
    (text : List Char) : skipSpace (c :: text) = c :: text := by
  rw [skipSpace, List.dropWhile_cons_of_neg]
  simp [h]

namespace Value

variable {v : Value} {items : List Value} {members : List (String × Value)} {fuel levels : Nat}
  {text rest : List Char}

/-! ## Values whose numbers are read back -/

mutual

/-- The numbers in a value. -/
def numbers : Value → List Number
  | .number n => [n]
  | .array items => itemsNumbers items
  | .object members => membersNumbers members
  | _ => []

/-- The numbers in items. -/
def itemsNumbers : List Value → List Number
  | [] => []
  | v :: rest => numbers v ++ itemsNumbers rest

/-- The numbers in members. -/
def membersNumbers : List (String × Value) → List Number
  | [] => []
  | (_, v) :: rest => numbers v ++ membersNumbers rest

end

theorem numbers_subset_of_mem (h : v ∈ items) : numbers v ⊆ itemsNumbers items := by
  induction items with
  | nil => cases h
  | cons w rest ih =>
    rw [itemsNumbers]
    rcases List.mem_cons.1 h with rfl | hmem
    · exact List.subset_append_left _ _
    · exact List.Subset.trans (ih hmem) (List.subset_append_right _ _)

theorem numbers_subset_of_member {k : String} (h : (k, v) ∈ members) :
    numbers v ⊆ membersNumbers members := by
  induction members with
  | nil => cases h
  | cons e rest ih =>
    obtain ⟨k', w⟩ := e
    rw [membersNumbers]
    rcases List.mem_cons.1 h with heq | hmem
    · cases heq
      exact List.subset_append_left _ _
    · exact List.Subset.trans (ih hmem) (List.subset_append_right _ _)

/-- **What is read back**, but for its depth: a value that has no key twice, and
whose numbers are read back. -/
structure Legible (v : Value) : Prop where
  wellFormed : v.WellFormed
  numbers : ∀ n ∈ v.numbers, n.ReadsBack

theorem Legible.item (h : (Value.array items).Legible) (hv : v ∈ items) : v.Legible where
  wellFormed := itemsWellFormed_iff.1 h.wellFormed v hv
  numbers n hn := h.numbers n (numbers_subset_of_mem hv hn)

theorem Legible.member (h : (Value.object members).Legible) {k : String} (hv : (k, v) ∈ members) :
    v.Legible where
  wellFormed := membersWellFormed_iff.1 h.wellFormed.2 k v hv
  numbers n hn := h.numbers n (numbers_subset_of_member hv hn)

/-- An object of one member is legible if that is. -/
theorem Legible.single (h : v.Legible) (k : String) : (Value.object [(k, v)]).Legible where
  wellFormed := ⟨by simp [Bindings.Distinct, Bindings.keys], h.wellFormed, trivial⟩
  numbers n hn := h.numbers n (by simpa [Value.numbers, membersNumbers] using hn)

/-! ## Texts -/

theorem skipSpace_of_closes (h : Closes rest) : skipSpace rest = rest := by
  cases rest with
  | nil => rfl
  | cons c rest => rcases h c rfl with rfl | rfl | rfl <;> rfl

/-- The text of items, without the brackets. -/
def itemsText (items : List Value) : List Char := (",".intercalate (printItems items)).toList

/-- The text of members, without the braces. -/
def membersText (members : List (String × Value)) : List Char :=
  (",".intercalate (printMembers members)).toList

theorem itemsText_singleton (v : Value) : itemsText [v] = v.print.toList := by
  simp [itemsText, printItems]

theorem itemsText_cons_cons (v w : Value) (items : List Value) :
    itemsText (v :: w :: items) = v.print.toList ++ ',' :: itemsText (w :: items) := by
  simp [itemsText, printItems, String.toList_intercalate]

theorem membersText_singleton (k : String) (v : Value) :
    membersText [(k, v)] = (quote k).toList ++ ':' :: v.print.toList := by
  simp [membersText, printMembers]

theorem membersText_cons_cons (k : String) (v : Value) (e : String × Value)
    (members : List (String × Value)) :
    membersText ((k, v) :: e :: members) =
      (quote k).toList ++ ':' :: v.print.toList ++ ',' :: membersText (e :: members) := by
  obtain ⟨k', w⟩ := e
  simp [membersText, printMembers, String.toList_intercalate]

theorem toList_print_array (items : List Value) :
    (Value.array items).print.toList = '[' :: itemsText items ++ [']'] := by
  simp [print, itemsText]

theorem toList_print_object (members : List (String × Value)) :
    (Value.object members).print.toList = '\x7b' :: membersText members ++ ['\x7d'] := by
  simp [print, membersText]

theorem toList_quote (s : String) :
    (quote s).toList = '"' :: s.toList.flatMap Quoted.encodeChar ++ ['"'] := by
  rw [quote, String.toList_ofList, Quoted.encode]

/-- The text of a value begins neither with space nor with a bracket that
closes. -/
theorem Legible.begins (h : v.Legible) : ∃ c text, v.print.toList = c :: text ∧ c ≠ ']' ∧
    c ≠ ' ' ∧ c ≠ '\n' ∧ c ≠ '\r' ∧ c ≠ '\t' := by
  cases v with
  | null => exact ⟨'n', ['u', 'l', 'l'], rfl, by decide⟩
  | bool b =>
    cases b with
    | true => exact ⟨'t', ['r', 'u', 'e'], rfl, by decide⟩
    | false => exact ⟨'f', ['a', 'l', 's', 'e'], rfl, by decide⟩
  | number n =>
    obtain ⟨c, text, htext, hc⟩ := (h.numbers n (by simp [Value.numbers])).begins
    refine ⟨c, text, htext, ?_⟩
    refine ⟨?_, ?_, ?_, ?_, ?_⟩ <;> rintro rfl <;> exact absurd hc (by decide)
  | string s => exact ⟨'"', _, toList_quote s, by decide⟩
  | array items => exact ⟨'[', _, toList_print_array items, by decide⟩
  | object members => exact ⟨'\x7b', _, toList_print_object members, by decide⟩

/-! ## Reading -/

/-- **A value is read back, with what is behind it, if it is not too deep**, and
is refused otherwise. -/
def RoundTrips (v : Value) : Prop :=
  ∀ fuel levels rest, v.print.toList.length < fuel → Closes rest →
    readValue fuel levels (v.print.toList ++ rest) =
      if v.depth ≤ levels then some (v, rest) else none

/-- What has no depth is read back if the reader does so at any level. -/
theorem RoundTrips.of_flat (hdepth : v.depth = 0)
    (hread : ∀ fuel levels rest, Closes rest →
      readValue (fuel + 1) levels (v.print.toList ++ rest) = some (v, rest)) : v.RoundTrips := by
  intro fuel levels rest hfuel hrest
  obtain ⟨fuel, rfl⟩ : ∃ n, fuel = n + 1 := ⟨fuel - 1, by omega⟩
  rw [hread fuel levels rest hrest, hdepth, if_pos (Nat.zero_le levels)]

/-- **Items are read back** up to the bracket that closes them. -/
theorem readItems_itemsText (hne : items ≠ []) (h : ∀ v ∈ items, v.RoundTrips)
    (hfuel : (itemsText items).length + 1 < fuel) (levels : Nat) (rest : List Char) :
    readItems fuel levels (itemsText items ++ ']' :: rest) =
      if itemsDepth items ≤ levels then some (items, rest) else none := by
  induction items generalizing fuel with
  | nil => exact absurd rfl hne
  | cons v more ih =>
    obtain ⟨fuel, rfl⟩ : ∃ n, fuel = n + 1 := ⟨fuel - 1, by omega⟩
    have hv := h v List.mem_cons_self
    cases more with
    | nil =>
      rw [itemsText_singleton] at hfuel ⊢
      rw [readItems, hv fuel levels (']' :: rest) (by omega) (closes_cons (by simp) rest)]
      by_cases hdepth : v.depth ≤ levels
      · rw [if_pos hdepth, if_pos (by simpa [itemsDepth] using hdepth)]
        rfl
      · rw [if_neg hdepth, if_neg (by simpa [itemsDepth] using hdepth)]
        rfl
    | cons w more =>
      rw [itemsText_cons_cons, List.append_assoc, List.cons_append]
      rw [itemsText_cons_cons, List.length_append, List.length_cons] at hfuel
      rw [readItems, hv fuel levels (',' :: _) (by omega) (closes_cons (by simp) _)]
      by_cases hdepth : v.depth ≤ levels
      · have hlater : (itemsText (w :: more)).length + 1 < fuel := by omega
        have hrest := ih (by simp) (fun u hu => h u (List.mem_cons_of_mem v hu)) hlater
        rw [if_pos hdepth]
        have hiff : itemsDepth (v :: w :: more) ≤ levels ↔ itemsDepth (w :: more) ≤ levels := by
          rw [itemsDepth]
          omega
        simp only [bind, Option.bind_some, skipSpace_of_not (c := ',') (by decide), hrest, hiff]
        split <;> rfl
      · have hdeep : ¬ itemsDepth (v :: w :: more) ≤ levels := by
          rw [itemsDepth]
          omega
        rw [if_neg hdepth, if_neg hdeep]
        rfl

/-- A member is read as its key and its value, and then what is behind it. -/
theorem readMembers_member (k : String) (h : v.RoundTrips) (hfuel : v.print.toList.length < fuel)
    (hrest : Closes rest) (levels : Nat) :
    readMembers (fuel + 1) levels ((quote k).toList ++ ':' :: v.print.toList ++ rest) =
      if v.depth ≤ levels then
        match rest with
        | ',' :: rest => (readMembers fuel levels rest).map fun (members, rest) =>
            ((k, v) :: members, rest)
        | '\x7d' :: rest => some ([(k, v)], rest)
        | _ => none
      else none := by
  rw [toList_quote]
  simp only [List.cons_append, List.append_assoc, List.nil_append, readMembers,
    skipSpace_of_not (c := '"') (by decide), skipSpace_of_not (c := ':') (by decide),
    Quoted.read?_encode, String.ofList_toList, bind, Option.bind_some,
    h fuel levels rest hfuel hrest]
  by_cases hdepth : v.depth ≤ levels
  · simp only [if_pos hdepth, Option.bind_some, skipSpace_of_closes hrest]
    cases rest with
    | nil => rfl
    | cons c rest =>
      rcases hrest c rfl with rfl | rfl | rfl
      · exact Option.map_eq_bind.symm
      · rfl
      · rfl
  · simp only [if_neg hdepth, Option.bind_none]

/-- **Members are read back** up to the brace that closes them. -/
theorem readMembers_membersText (hne : members ≠ []) (h : ∀ k v, (k, v) ∈ members → v.RoundTrips)
    (hfuel : (membersText members).length + 1 < fuel) (levels : Nat) (rest : List Char) :
    readMembers fuel levels (membersText members ++ '\x7d' :: rest) =
      if membersDepth members ≤ levels then some (members, rest) else none := by
  induction members generalizing fuel with
  | nil => exact absurd rfl hne
  | cons e more ih =>
    obtain ⟨k, v⟩ := e
    obtain ⟨fuel, rfl⟩ : ∃ n, fuel = n + 1 := ⟨fuel - 1, by omega⟩
    have hv := h k v List.mem_cons_self
    cases more with
    | nil =>
      rw [membersText_singleton] at hfuel ⊢
      rw [List.length_append, List.length_cons] at hfuel
      rw [readMembers_member k hv (by omega) (closes_cons (by simp) rest)]
      have hiff : membersDepth [(k, v)] ≤ levels ↔ v.depth ≤ levels := by
        simp [membersDepth]
      simp only [hiff]
    | cons e more =>
      rw [membersText_cons_cons, List.append_assoc, List.cons_append]
      rw [membersText_cons_cons, List.length_append, List.length_append, List.length_cons,
        List.length_cons] at hfuel
      have hlater : (membersText (e :: more)).length + 1 < fuel := by omega
      have hrest := ih (by simp) (fun k u hu => h k u (List.mem_cons_of_mem _ hu)) hlater
      rw [readMembers_member k hv (by omega) (closes_cons (by simp) _)]
      by_cases hdepth : v.depth ≤ levels
      · have hiff : membersDepth ((k, v) :: e :: more) ≤ levels ↔
            membersDepth (e :: more) ≤ levels := by
          rw [membersDepth]
          omega
        simp only [if_pos hdepth, hrest, hiff]
        split <;> rfl
      · have hdeep : ¬ membersDepth ((k, v) :: e :: more) ≤ levels := by
          rw [membersDepth]
          omega
        rw [if_neg hdepth, if_neg hdeep]

/-- What begins like a number is read as one. -/
theorem readValue_number {c : Char} (hc : c = '-' ∨ c.isDigit = true) (fuel levels : Nat)
    (text : List Char) : readValue (fuel + 1) levels (c :: text) =
      (Number.read? (c :: text)).map fun (n, rest) => (.number n, rest) := by
  have hspace : c ≠ ' ' ∧ c ≠ '\n' ∧ c ≠ '\r' ∧ c ≠ '\t' := by
    refine ⟨?_, ?_, ?_, ?_⟩ <;> rintro rfl <;> revert hc <;> decide
  rw [readValue, skipSpace_of_not hspace]
  -- no other value begins with a sign or a digit
  split
  case h_7 => rfl
  all_goals
    next heq =>
    cases heq
    exact absurd hc (by decide)

theorem readValue_string (fuel levels : Nat) (text : List Char) :
    readValue (fuel + 1) levels ('"' :: text) =
      (Quoted.read? text).map fun (s, rest) => (.string (String.ofList s), rest) := rfl

theorem readValue_empty_array (fuel levels : Nat) (rest : List Char) :
    readValue (fuel + 1) (levels + 1) ('[' :: ']' :: rest) = some (.array [], rest) := rfl

theorem readValue_empty_object (fuel levels : Nat) (rest : List Char) :
    readValue (fuel + 1) (levels + 1) ('\x7b' :: '\x7d' :: rest) = some (.object [], rest) := rfl

/-- An array that is not closed at once is read by its items, -/
theorem readValue_open_array {c : Char} (hclose : c ≠ ']')
    (hspace : c ≠ ' ' ∧ c ≠ '\n' ∧ c ≠ '\r' ∧ c ≠ '\t') (fuel levels : Nat) (text : List Char) :
    readValue (fuel + 1) (levels + 1) ('[' :: c :: text) =
      (readItems fuel levels (c :: text)).map fun (items, rest) => (.array items, rest) := by
  rw [readValue, skipSpace_of_not (by decide)]
  split
  case h_5 heq =>
    cases heq
    dsimp only
    rw [skipSpace_of_not hspace]
    split
    · next heq => cases heq; exact absurd rfl hclose
    · rfl
  case h_7 hopen _ => exact absurd rfl (hopen _)
  all_goals next heq => cases heq

/-- and an object that begins with a key by its members. -/
theorem readValue_open_object (fuel levels : Nat) (text : List Char) :
    readValue (fuel + 1) (levels + 1) ('\x7b' :: '"' :: text) =
      (readMembers fuel levels ('"' :: text)).map fun (members, rest) =>
        (.object (Bindings.ofPairs members), rest) := rfl

/-- **An array is read back** if its items are, -/
theorem readValue_array (h : ∀ v ∈ items, v.Legible) (hitems : ∀ v ∈ items, v.RoundTrips)
    (hfuel : (itemsText items).length + 1 < fuel) (levels : Nat) (rest : List Char) :
    readValue (fuel + 1) levels ('[' :: (itemsText items ++ ']' :: rest)) =
      if (Value.array items).depth ≤ levels then some (.array items, rest) else none := by
  cases levels with
  | zero => rfl
  | succ levels =>
    cases items with
    | nil =>
      rw [if_pos (by simp [depth, itemsDepth])]
      exact readValue_empty_array fuel levels rest
    | cons v more =>
      obtain ⟨c, text, htext, hclose, hspace⟩ : ∃ c text,
          itemsText (v :: more) ++ ']' :: rest = c :: text ∧ c ≠ ']' ∧
            c ≠ ' ' ∧ c ≠ '\n' ∧ c ≠ '\r' ∧ c ≠ '\t' := by
        obtain ⟨c, text, htext, hc⟩ := (h v List.mem_cons_self).begins
        cases more with
        | nil => exact ⟨c, _, by rw [itemsText_singleton, htext]; rfl, hc⟩
        | cons w more => exact ⟨c, _, by rw [itemsText_cons_cons, htext]; rfl, hc⟩
      have hread := readItems_itemsText (by simp) hitems hfuel levels rest
      rw [htext] at hread ⊢
      rw [readValue_open_array hclose hspace, hread]
      simp only [depth, Nat.add_le_add_iff_right]
      split <;> rfl

/-- and an object if the values of its members are. -/
theorem readValue_object (hd : Bindings.Distinct members)
    (hmembers : ∀ k v, (k, v) ∈ members → v.RoundTrips)
    (hfuel : (membersText members).length + 1 < fuel) (levels : Nat) (rest : List Char) :
    readValue (fuel + 1) levels ('\x7b' :: (membersText members ++ '\x7d' :: rest)) =
      if (Value.object members).depth ≤ levels then some (.object members, rest) else none := by
  cases levels with
  | zero => rfl
  | succ levels =>
    cases members with
    | nil =>
      rw [if_pos (by simp [depth, membersDepth])]
      exact readValue_empty_object fuel levels rest
    | cons e more =>
      obtain ⟨k, v⟩ := e
      obtain ⟨text, htext⟩ : ∃ text,
          membersText ((k, v) :: more) ++ '\x7d' :: rest = '"' :: text := by
        cases more with
        | nil => exact ⟨_, by rw [membersText_singleton, toList_quote]; rfl⟩
        | cons e more => exact ⟨_, by rw [membersText_cons_cons, toList_quote]; rfl⟩
      have hread := readMembers_membersText (by simp) hmembers hfuel levels rest
      rw [htext] at hread ⊢
      rw [readValue_open_object, hread]
      simp only [depth, Nat.add_le_add_iff_right]
      split
      · rw [Option.map_some, Bindings.ofPairs_eq_self hd]
      · rfl

/-- **Every value that is legible makes the round trip.** -/
theorem Legible.roundTrips (h : v.Legible) : v.RoundTrips := by
  induction v using Value.induction with
  | null => exact .of_flat rfl fun _ _ _ _ => rfl
  | bool b => cases b <;> exact .of_flat rfl fun _ _ _ _ => rfl
  | number n =>
    refine .of_flat rfl fun fuel levels rest hrest => ?_
    have hback : n.ReadsBack := h.numbers n (by simp [Value.numbers])
    obtain ⟨c, text, htext, hc⟩ := hback.begins
    have hread := hback.append hrest
    rw [print, htext, List.cons_append, readValue_number hc, ← List.cons_append, ← htext, hread]
    rfl
  | string s =>
    refine .of_flat rfl fun fuel levels rest _ => ?_
    rw [print, toList_quote, List.append_assoc, List.cons_append, readValue_string,
      List.singleton_append, Quoted.read?_encode, Option.map_some]
    dsimp only
    rw [String.ofList_toList]
  | array items ih =>
    intro fuel levels rest hfuel _
    obtain ⟨fuel, rfl⟩ : ∃ n, fuel = n + 1 := ⟨fuel - 1, by omega⟩
    rw [toList_print_array] at hfuel ⊢
    simp only [List.cons_append, List.append_assoc, List.nil_append, List.length_cons,
      List.length_append, List.length_nil] at hfuel ⊢
    exact readValue_array (fun v hv => h.item hv) (fun v hv => ih v hv (h.item hv)) (by omega)
      levels rest
  | object members ih =>
    intro fuel levels rest hfuel _
    obtain ⟨fuel, rfl⟩ : ∃ n, fuel = n + 1 := ⟨fuel - 1, by omega⟩
    rw [toList_print_object] at hfuel ⊢
    simp only [List.cons_append, List.append_assoc, List.nil_append, List.length_cons,
      List.length_append, List.length_nil] at hfuel ⊢
    exact readValue_object h.wellFormed.1 (fun k v hv => ih k v hv (h.member hv)) (by omega)
      levels rest

/-- **What is printed is read**, if it is no deeper than the reader goes. -/
theorem Legible.read?_print (h : v.Legible) (levels : Nat) :
    read? levels v.print = if v.depth ≤ levels then some v else none := by
  have hread := h.roundTrips (v.print.toList.length + 1) levels [] (Nat.lt_succ_self _) closes_nil
  rw [List.append_nil] at hread
  unfold read?
  dsimp only
  rw [hread]
  split <;> rfl

end Value

end DocumentStore
