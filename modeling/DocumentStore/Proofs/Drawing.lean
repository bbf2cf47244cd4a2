import DocumentStore.Proofs.Addition

/-!
# Drawing — which id is drawn, and how many words it takes

The symbols that words select are cut into blocks of four (`Identifier.offered`).
What is drawn is the first block that is free (`FirstFree`), and the words left are
those behind the word of its last symbol (`LeftBehind`); there is nothing to draw just
if no complete block is free. Drawing goes through the words one by one, with the
symbols of a block begun before; the induction is on the words, whatever was begun.
-/

namespace DocumentStore.Identifier

variable {taken : String → Bool} {words rest : List UInt32} {word : UInt32} {c : Char}
  {blocks : List String} {block id : String} {k n : Nat}

/-! ## Symbols and blocks -/

/-- The symbol with a number: the capital letters, the small ones, the digits. -/
def symbolAt? (i : Nat) : Option Char :=
  if i < 26 then some (Char.ofNat (65 + i))
  else if i < 52 then some (Char.ofNat (97 + (i - 26)))
  else if i < 62 then some (Char.ofNat (48 + (i - 52)))
  else none

theorem shifted_lt (word : UInt32) : (word >>> 26).toNat < 64 := by
  have hlt : word.toNat < 64 * 2 ^ 26 := word.toNat_lt
  rw [UInt32.toNat_shiftRight]
  exact (Nat.shiftRight_eq_div_pow word.toNat 26) ▸ Nat.div_lt_of_lt_mul (by omega)

/-- **A word selects** the symbol that its top six bits number. -/
theorem symbol?_eq (word : UInt32) : symbol? word = symbolAt? (word >>> 26).toNat := by
  have hall : ∀ i < 64, alphabet[i]? = symbolAt? i := by decide +kernel
  exact hall _ (shifted_lt word)

/-- **The blocks on offer** are the symbols cut into fours. -/
theorem getElem?_spelled (symbols : List Char) (k : Nat) : (spelled symbols)[k]? =
    if 4 * k + 4 ≤ symbols.length then some (String.ofList ((symbols.drop (4 * k)).take 4))
    else none := by
  fun_induction spelled symbols generalizing k with
  | case1 a b c d rest ih =>
    cases k with
    | zero => simp
    | succ k =>
      have hdrop : (a :: b :: c :: d :: rest).drop (4 * (k + 1)) = rest.drop (4 * k) := rfl
      have hlength : 4 * (k + 1) + 4 ≤ (a :: b :: c :: d :: rest).length ↔
          4 * k + 4 ≤ rest.length := by
        simp only [List.length_cons]
        omega
      rw [List.getElem?_cons_succ, ih, hdrop]
      simp only [hlength]
  | case2 symbols hshort =>
    have hlength : symbols.length < 4 := by
      rcases symbols with _ | ⟨a, _ | ⟨b, _ | ⟨c, _ | ⟨d, rest⟩⟩⟩⟩
      case cons.cons.cons.cons => exact absurd rfl (hshort a b c d rest)
      all_goals simp
    rw [if_neg (by omega)]
    rfl

/-! ## The first free block -/

/-- The block with a number is free, and those before it are taken. -/
structure FirstFree (taken : String → Bool) (blocks : List String) (k : Nat) (id : String) :
    Prop where
  found : blocks[k]? = some id
  free : taken id = false
  before : ∀ j < k, ∀ b, blocks[j]? = some b → taken b = true

/-- A block that is taken is passed over. -/
theorem firstFree_cons_of_taken (h : taken block = true) :
    FirstFree taken (block :: blocks) k id ↔ ∃ m, k = m + 1 ∧ FirstFree taken blocks m id := by
  constructor
  · rintro ⟨hfound, hfree, hbefore⟩
    cases k with
    | zero =>
      obtain rfl := Option.some.inj hfound
      rw [h] at hfree
      cases hfree
    | succ m =>
      exact ⟨m, rfl, hfound, hfree, fun j hj => hbefore (j + 1) (Nat.succ_lt_succ hj)⟩
  · rintro ⟨m, rfl, hfound, hfree, hbefore⟩
    refine ⟨hfound, hfree, fun j hj b hb => ?_⟩
    cases j with
    | zero =>
      obtain rfl := Option.some.inj hb
      exact h
    | succ j => exact hbefore j (Nat.lt_of_succ_lt_succ hj) b hb

/-- No other block counts behind one that is free. -/
theorem firstFree_cons_of_free (h : taken block = false) :
    FirstFree taken (block :: blocks) k id ↔ k = 0 ∧ id = block := by
  constructor
  · rintro ⟨hfound, -, hbefore⟩
    cases k with
    | zero => exact ⟨rfl, (Option.some.inj hfound).symm⟩
    | succ m =>
      have htaken := hbefore 0 m.succ_pos block rfl
      rw [h] at htaken
      cases htaken
  · rintro ⟨rfl, rfl⟩
    exact ⟨rfl, h, fun j hj => absurd hj j.not_lt_zero⟩

/-! ## The words left -/

/-- These words are left behind the word of a symbol, which `n` others precede. -/
def LeftBehind (words : List UInt32) (n : Nat) (rest : List UInt32) : Prop :=
  ∃ used word, words = used ++ word :: rest ∧ (used.filterMap symbol?).length = n ∧
    (symbol? word).isSome

theorem not_leftBehind_nil : ¬ LeftBehind [] n rest := by
  rintro ⟨used, word, hwords, -⟩
  simp at hwords

/-- A word that selects nothing does not count. -/
theorem leftBehind_cons_none (h : symbol? word = none) :
    LeftBehind (word :: words) n rest ↔ LeftBehind words n rest := by
  constructor
  · rintro ⟨used, last, hwords, hn, hlast⟩
    cases used with
    | nil =>
      obtain ⟨rfl, -⟩ := List.cons.inj hwords
      rw [h] at hlast
      cases hlast
    | cons first used =>
      obtain ⟨rfl, rfl⟩ := List.cons.inj hwords
      exact ⟨used, last, rfl, by rwa [List.filterMap_cons_none h] at hn, hlast⟩
  · rintro ⟨used, last, rfl, hn, hlast⟩
    exact ⟨word :: used, last, rfl, by rwa [List.filterMap_cons_none h], hlast⟩

/-- One that selects a symbol is the word looked for, or counts as one before it. -/
theorem leftBehind_cons_some (h : symbol? word = some c) :
    LeftBehind (word :: words) n rest ↔
      (n = 0 ∧ rest = words) ∨ ∃ m, n = m + 1 ∧ LeftBehind words m rest := by
  constructor
  · rintro ⟨used, last, hwords, hn, hlast⟩
    cases used with
    | nil =>
      obtain ⟨-, hrest⟩ := List.cons.inj hwords
      exact .inl ⟨hn.symm, hrest.symm⟩
    | cons first used =>
      obtain ⟨rfl, rfl⟩ := List.cons.inj hwords
      rw [List.filterMap_cons_some h] at hn
      exact .inr ⟨_, hn.symm, used, last, rfl, rfl, hlast⟩
  · rintro (⟨rfl, rfl⟩ | ⟨m, rfl, used, last, rfl, hm, hlast⟩)
    · exact ⟨[], word, rfl, rfl, by rw [h]; rfl⟩
    · refine ⟨word :: used, last, rfl, ?_, hlast⟩
      rw [List.filterMap_cons_some h, List.length_cons, hm]

/-! ## What is drawn -/

/-- **Drawing from words**, behind the symbols of a block begun before: these count
among the symbols of the block, but take no more words. -/
theorem drawFrom?_eq_some_iff (taken : String → Bool) (words : List UInt32) {begun : List Char}
    (hbegun : begun.length < length) : drawFrom? taken begun words = some (id, rest) ↔
      ∃ k, FirstFree taken (spelled (begun ++ words.filterMap symbol?)) k id ∧
        LeftBehind words (4 * k + 3 - begun.length) rest := by
  fun_induction drawFrom? taken begun words with
  | case1 begun =>
    refine iff_of_false (fun h => by cases h) ?_
    rintro ⟨_, _, hleft⟩
    exact not_leftBehind_nil hleft
  | case2 begun word words hnone ih =>
    rw [List.filterMap_cons_none hnone, ih hbegun]
    simp only [leftBehind_cons_none hnone]
  | case3 begun word words c hsome symbols hshort ih =>
    rw [List.filterMap_cons_some hsome, List.append_cons, ih hshort]
    have hlength : symbols.length = begun.length + 1 := List.length_append
    have hless : begun.length + 1 < 4 := hlength ▸ hshort
    refine exists_congr fun k => and_congr_right fun _ => ?_
    have hcount : 4 * k + 3 - begun.length = 4 * k + 3 - symbols.length + 1 := by omega
    rw [leftBehind_cons_some hsome, hcount]
    simp
  | case4 begun word words c hsome symbols hlong htaken ih =>
    obtain ⟨hthree, hfour⟩ : begun.length = 3 ∧ symbols.length = length :=
      length_of_full hbegun hlong
    rw [List.filterMap_cons_some hsome, List.append_cons, spelled_append hfour, ih (by decide)]
    simp only [firstFree_cons_of_taken htaken, leftBehind_cons_some hsome, hthree]
    constructor
    · rintro ⟨k, hfree, hleft⟩
      exact ⟨k + 1, ⟨k, rfl, hfree⟩, .inr ⟨4 * k + 3, by omega, hleft⟩⟩
    · rintro ⟨_, ⟨k, rfl, hfree⟩, ⟨hzero, -⟩ | ⟨m, hm, hleft⟩⟩
      · omega
      · obtain rfl : m = 4 * k + 3 := by omega
        exact ⟨k, hfree, hleft⟩
  | case5 begun word words c hsome symbols hlong hfree =>
    obtain ⟨hthree, hfour⟩ : begun.length = 3 ∧ symbols.length = length :=
      length_of_full hbegun hlong
    have hfree : taken (String.ofList symbols) = false := by simpa using hfree
    rw [List.filterMap_cons_some hsome, List.append_cons, spelled_append hfour, Option.some.injEq,
      Prod.mk.injEq]
    simp only [firstFree_cons_of_free hfree, leftBehind_cons_some hsome, hthree]
    constructor
    · rintro ⟨rfl, rfl⟩
      exact ⟨0, ⟨rfl, rfl⟩, .inl ⟨rfl, rfl⟩⟩
    · rintro ⟨_, ⟨rfl, rfl⟩, ⟨-, rfl⟩ | ⟨m, hm, -⟩⟩
      · exact ⟨rfl, rfl⟩
      · omega

/-- **An id is drawn** just if it is the first free block, and the words left are those
behind its last symbol. -/
theorem draw?_eq_some_iff : draw? taken words = some (id, rest) ↔
    ∃ k, FirstFree taken (offered words) k id ∧ LeftBehind words (4 * k + 3) rest :=
  drawFrom?_eq_some_iff taken words (by decide)

/-- **Nothing is drawn** just if no block is free. -/
theorem draw?_eq_none_iff :
    draw? taken words = none ↔ ∀ id ∈ offered words, taken id = true := by
  rw [← Option.map_eq_none_iff, draw?_fst, List.find?_eq_none]
  simp

/-- Every letter and every digit is selected by some word. -/
theorem exists_symbol?_eq_some (hc : c.isAlphanum = true) : ∃ word, symbol? word = some c := by
  have hsmall : c.toNat < 128 := by
    have hkind : ((c.isUpper || c.isLower) || c.isDigit) = true := hc
    have hbound (last : Char) (h : c.val ≤ last.val) (hlast : last.toNat < 128) : c.toNat < 128 :=
      Nat.lt_of_le_of_lt (UInt32.le_iff_toNat_le.1 h) hlast
    rw [Bool.or_eq_true, Bool.or_eq_true] at hkind
    rcases hkind with (hupper | hlower) | hdigit
    · have hupper : decide ('A'.val ≤ c.val ∧ c.val ≤ 'Z'.val) = true := hupper
      exact hbound 'Z' (of_decide_eq_true hupper).2 (by decide)
    · have hlower : ('a'.val ≤ c.val && c.val ≤ 'z'.val) = true := hlower
      exact hbound 'z' (of_decide_eq_true (Bool.and_eq_true_iff.1 hlower).2) (by decide)
    · have hdigit : ('0'.val ≤ c.val && c.val ≤ '9'.val) = true := hdigit
      exact hbound '9' (of_decide_eq_true (Bool.and_eq_true_iff.1 hdigit).2) (by decide)
  have hall : ∀ n < 128, (Char.ofNat n).isAlphanum = true →
      ∃ i < 62, symbol? (UInt32.ofNat i <<< 26) = some (Char.ofNat n) := by decide +kernel
  obtain ⟨i, -, hi⟩ := hall c.toNat hsmall (by rwa [Char.ofNat_toNat])
  exact ⟨_, by rwa [Char.ofNat_toNat] at hi⟩

/-- **Every free id of four letters and digits** is drawn from some words. -/
theorem exists_draw?_eq_some (hlength : id.length = 4)
    (hid : ∀ c ∈ id.toList, c.isAlphanum = true) (hfree : taken id = false) :
    ∃ words, draw? taken words = some (id, []) := by
  obtain ⟨symbols, rfl⟩ : ∃ symbols, id = String.ofList symbols := ⟨id.toList, by simp⟩
  simp only [String.toList_ofList] at hid
  match symbols, (by simpa using hlength : symbols.length = 4) with
  | [a, b, c, d], _ =>
    obtain ⟨wa, ha⟩ := exists_symbol?_eq_some (hid a (by simp))
    obtain ⟨wb, hb⟩ := exists_symbol?_eq_some (hid b (by simp))
    obtain ⟨wc, hc⟩ := exists_symbol?_eq_some (hid c (by simp))
    obtain ⟨wd, hd⟩ := exists_symbol?_eq_some (hid d (by simp))
    have hoffered : offered [wa, wb, wc, wd] = [String.ofList [a, b, c, d]] := by
      simp [offered, ha, hb, hc, hd, spelled]
    refine ⟨[wa, wb, wc, wd], draw?_eq_some_iff.2 ⟨0, ?_, [wa, wb, wc], wd, rfl, ?_, ?_⟩⟩
    · rw [hoffered, firstFree_cons_of_free hfree]
      exact ⟨rfl, rfl⟩
    · simp [ha, hb, hc]
    · rw [hd]
      rfl

/-- **Drawing takes the first free block.** The top six bits of a word number the
symbol it selects, and 62 and 63 number none. Of the symbols that the words select,
every four make a block. What is drawn is the first block that is not taken, and what
is left are the words behind the one of its last symbol; nothing is drawn, for the
words run out, just if every complete block is taken. So an id that is drawn has four
letters and digits and is not taken, and every such id is drawn from some words. -/
theorem drawing_takes_first_free (taken : String → Bool) (words : List UInt32) :
    (∀ word, symbol? word = symbolAt? (word >>> 26).toNat) ∧
    let symbols := words.filterMap symbol?
    let block (k : Nat) := String.ofList ((symbols.drop (4 * k)).take 4)
    let complete (k : Nat) := 4 * k + 4 ≤ symbols.length
    (∀ id rest, draw? taken words = some (id, rest) ↔
      ∃ k, (complete k ∧ block k = id ∧ taken id = false ∧ ∀ j < k, taken (block j) = true) ∧
        ∃ used word, words = used ++ word :: rest ∧ (used.filterMap symbol?).length = 4 * k + 3 ∧
          (symbol? word).isSome) ∧
    (draw? taken words = none ↔ ∀ k, complete k → taken (block k) = true) ∧
    (∀ id rest, draw? taken words = some (id, rest) →
      id.length = 4 ∧ (∀ c ∈ id.toList, c.isAlphanum = true) ∧ taken id = false) ∧
    ∀ id : String, id.length = 4 → (∀ c ∈ id.toList, c.isAlphanum = true) → taken id = false →
      ∃ words', draw? taken words' = some (id, []) := by
  refine ⟨symbol?_eq, ?_⟩
  intro symbols block complete
  have hblock (k : Nat) (id : String) :
      (offered words)[k]? = some id ↔ complete k ∧ block k = id := by
    rw [offered, getElem?_spelled, Option.ite_none_right_eq_some, Option.some.injEq]
  refine ⟨fun id rest => ?_, ?_, fun id rest h => ?_, fun id => exists_draw?_eq_some⟩
  · rw [draw?_eq_some_iff]
    refine exists_congr fun k => and_congr_left fun _ => ?_
    constructor
    · rintro ⟨hfound, hfree, hbefore⟩
      obtain ⟨hk, hid⟩ := (hblock k id).1 hfound
      have hcomplete (j : Nat) (hj : j < k) : complete j := Nat.le_trans (by omega) hk
      exact ⟨hk, hid, hfree, fun j hj => hbefore j hj _ ((hblock j _).2 ⟨hcomplete j hj, rfl⟩)⟩
    · rintro ⟨hk, hid, hfree, hbefore⟩
      refine ⟨(hblock k id).2 ⟨hk, hid⟩, hfree, fun j hj b hb => ?_⟩
      obtain ⟨-, rfl⟩ := (hblock j b).1 hb
      exact hbefore j hj
  · rw [draw?_eq_none_iff]
    constructor
    · intro h k hk
      exact h _ (List.mem_of_getElem? ((hblock k _).2 ⟨hk, rfl⟩))
    · intro h id hid
      obtain ⟨k, hk⟩ := List.getElem?_of_mem hid
      obtain ⟨hcomplete, rfl⟩ := (hblock k id).1 hk
      exact h k hcomplete
  · obtain ⟨k, hfree, -⟩ := draw?_eq_some_iff.1 h
    have hoffered : id ∈ offered words := List.mem_of_getElem? hfree.found
    obtain ⟨hlength, hsymbols⟩ := alphanumeric_of_mem_offered hoffered
    exact ⟨hlength, hsymbols, hfree.free⟩

/-- The first block is taken, a word that selects nothing lies within the second, and
the last word is left. -/
example : draw? (· == "AAAA") [0, 0, 0, 0, 0, 0xFFFFFFFF, 0, 0, 0x04000000, 7] =
    some ("AAAB", [7]) := by decide +kernel

end DocumentStore.Identifier
