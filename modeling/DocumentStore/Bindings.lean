/-!
# Bindings — maps that keep the order of insertion

The fields of a document, the documents of a collection and the
collections of a store are all kept the same way: a list of key and value
pairs in the order the keys were first put in. Putting a key that is
there keeps its place (`Bindings.insert`), taking one out closes the gap
(`Bindings.erase`). What the operations do to look-up and to the keys is
said by the lemmas beside them; the keys of a map are distinct
(`Bindings.Distinct`) and every operation keeps them so.
-/

namespace DocumentStore

universe u v

/-- Key and value pairs in insertion order. -/
abbrev Bindings (α : Type u) := List (String × α)

namespace Bindings

variable {α : Type u} {β : Type v} {m : Bindings α} {k k' : String} {v : α}

/-- The value under a key. -/
def get? : Bindings α → String → Option α
  | [], _ => none
  | (k, v) :: rest, key => if k = key then some v else get? rest key

/-- Whether a key is present. -/
def contains (m : Bindings α) (key : String) : Bool := (get? m key).isSome

/-- The keys, in order. -/
def keys (m : Bindings α) : List String := m.map Prod.fst

/-- Puts a value under a key: in the key's place if it is there, else at
the end. -/
def insert : Bindings α → String → α → Bindings α
  | [], key, value => [(key, value)]
  | (k, v) :: rest, key, value =>
    if k = key then (k, value) :: rest else (k, v) :: insert rest key value

/-- Takes a key out; what followed it moves up. -/
def erase (m : Bindings α) (key : String) : Bindings α := m.filter (·.1 != key)

/-- Replaces the value under a key by a function of it. -/
def modify (m : Bindings α) (key : String) (f : α → α) : Bindings α :=
  m.map fun (k, v) => if k = key then (k, f v) else (k, v)

/-- The same keys with other values. -/
def mapValues (m : Bindings α) (f : α → β) : Bindings β := m.map fun (k, v) => (k, f v)

/-- The bindings of a list of pairs, each later pair overriding in the
earlier one's place. -/
def ofPairs (pairs : List (String × α)) : Bindings α :=
  pairs.foldl (fun m (k, v) => insert m k v) []

/-- Puts all values of a map, in its order. -/
def insertAll (m p : Bindings α) : Bindings α := p.foldl (fun m (k, v) => insert m k v) m

/-- No key occurs twice. -/
def Distinct (m : Bindings α) : Prop := (keys m).Nodup

instance : Decidable (Distinct m) := inferInstanceAs (Decidable (List.Nodup _))

/-! ## Look-up -/

@[simp] theorem get?_nil : get? ([] : Bindings α) k = none := rfl

theorem get?_cons : get? ((k', v) :: m) k = if k' = k then some v else get? m k := rfl

/-- What is looked up is bound. -/
theorem mem_of_get? (h : get? m k = some v) : (k, v) ∈ m := by
  induction m with
  | nil => simp at h
  | cons e rest ih =>
    obtain ⟨k', v'⟩ := e
    rw [get?_cons] at h
    split at h
    · next hk => cases h; simp [hk]
    · exact List.mem_cons_of_mem _ (ih h)

/-- A key is absent just if it is none of the keys. -/
theorem get?_eq_none_iff : get? m k = none ↔ k ∉ keys m := by
  induction m with
  | nil => simp [keys]
  | cons e rest ih =>
    obtain ⟨k', v'⟩ := e
    rw [get?_cons]
    by_cases hk : k' = k
    · simp [hk, keys]
    · have hk' : ¬ k = k' := fun h => hk h.symm
      simp only [keys] at ih
      simp [hk, hk', keys, ih]

/-- With distinct keys, whatever is bound is looked up. -/
theorem get?_of_mem (hd : Distinct m) (h : (k, v) ∈ m) : get? m k = some v := by
  induction m with
  | nil => simp at h
  | cons e rest ih =>
    obtain ⟨k', v'⟩ := e
    simp only [Distinct, keys, List.map_cons, List.nodup_cons] at hd
    rw [get?_cons]
    rcases List.mem_cons.1 h with heq | hmem
    · cases heq; simp
    · have hne : k' ≠ k := by
        rintro rfl
        exact hd.1 (List.mem_map.2 ⟨_, hmem, rfl⟩)
      rw [if_neg hne]
      exact ih hd.2 hmem

/-- A key is one of the keys just if something is bound to it. -/
theorem mem_keys_iff : k ∈ keys m ↔ ∃ v, (k, v) ∈ m := by
  simp [keys]

/-- A key is present just if it is one of the keys. -/
theorem contains_iff : contains m k = true ↔ k ∈ keys m := by
  rw [contains, Option.isSome_iff_ne_none, ne_eq, get?_eq_none_iff, Classical.not_not]

/-- With distinct keys, what is looked up is what is bound. -/
theorem get?_eq_some_iff (hd : Distinct m) : get? m k = some v ↔ (k, v) ∈ m :=
  ⟨mem_of_get?, get?_of_mem hd⟩

/-- With distinct keys, a key is bound to one value. -/
theorem Distinct.eq_of_mem {w : α} (hd : Distinct m) (hv : (k, v) ∈ m) (hw : (k, w) ∈ m) :
    v = w := by
  have := get?_of_mem hd hv
  rw [get?_of_mem hd hw] at this
  exact (Option.some.inj this).symm

/-- Maps with the same keys, in the same order, and the same look-up are equal. -/
theorem Distinct.eq_of_keys {m' : Bindings α} (hd : Distinct m) (hkeys : keys m' = keys m)
    (hget : ∀ k, get? m' k = get? m k) : m' = m := by
  induction m generalizing m' with
  | nil => exact List.map_eq_nil_iff.1 hkeys
  | cons e rest ih =>
    obtain ⟨k, v⟩ := e
    cases m' with
    | nil => cases hkeys
    | cons e' rest' =>
      obtain ⟨k', v'⟩ := e'
      obtain ⟨rfl, hrest⟩ : k' = k ∧ keys rest' = keys rest := List.cons.inj hkeys
      obtain ⟨hk, hd⟩ := List.nodup_cons.1 hd
      have hv : v' = v := by simpa [get?_cons] using hget k'
      have hrestget (x : String) : get? rest' x = get? rest x := by
        by_cases hx : k' = x
        · rw [← hx, get?_eq_none_iff.2 hk, get?_eq_none_iff.2 (hrest ▸ hk)]
        · simpa [get?_cons, hx] using hget x
      rw [hv, ih hd hrest hrestget]

/-- Some of the bindings have distinct keys too. -/
theorem Distinct.sublist {m' : Bindings α} (hd : Distinct m) (h : List.Sublist m' m) :
    Distinct m' :=
  List.Nodup.sublist (h.map _) hd

/-! ## Other values under the same keys -/

@[simp] theorem keys_map {f : String × α → β} (m : Bindings α) :
    keys (m.map fun e => (e.1, f e)) = keys m := by
  simp [keys, Function.comp_def]

@[simp] theorem keys_mapValues (m : Bindings α) (f : α → β) : keys (mapValues m f) = keys m :=
  keys_map m

/-- A key may be tested before the value is put under it. -/
theorem modify_eq_map (m : Bindings α) (key : String) (f : α → α) :
    modify m key f = m.map fun e => (e.1, if e.1 = key then f e.2 else e.2) := by
  refine List.map_congr_left fun e _ => ?_
  dsimp only
  split <;> rfl

@[simp] theorem keys_modify (m : Bindings α) (key : String) (f : α → α) :
    keys (modify m key f) = keys m := by
  rw [modify_eq_map, keys_map]

/-- The keys are as distinct under other values, -/
theorem Distinct.map (hd : Distinct m) (f : String × α → β) :
    Distinct (m.map fun e => (e.1, f e)) := by
  rwa [Distinct, keys_map]

/-- under functions of the values, -/
theorem Distinct.mapValues (hd : Distinct m) (f : α → β) : Distinct (mapValues m f) :=
  hd.map _

/-- and with one value replaced. -/
theorem Distinct.modify (hd : Distinct m) (key : String) (f : α → α) :
    Distinct (modify m key f) := by
  rwa [Distinct, keys_modify]

/-! ## Insertion -/

/-- Look-up after an insertion. -/
theorem get?_insert (m : Bindings α) (key : String) (value : α) (k : String) :
    get? (insert m key value) k = if key = k then some value else get? m k := by
  induction m with
  | nil => simp [insert, get?_cons]
  | cons e rest ih =>
    obtain ⟨k', v'⟩ := e
    simp only [insert]
    by_cases h : k' = key
    · subst h
      by_cases h' : k' = k <;> simp [get?_cons, h']
    · by_cases h' : k' = k
      · subst h'; simp [get?_cons, h, Ne.symm h]
      · simp [get?_cons, h, h', ih]

/-- Putting a key that is there keeps the keys. -/
theorem keys_insert_of_mem (h : k ∈ keys m) : keys (insert m k v) = keys m := by
  induction m with
  | nil => simp [keys] at h
  | cons e rest ih =>
    obtain ⟨k', v'⟩ := e
    simp only [insert]
    by_cases hk : k' = k
    · simp [keys, hk]
    · have hmem : k ∈ keys rest := by
        simp only [keys, List.map_cons, List.mem_cons] at h
        exact h.resolve_left (fun e => hk e.symm)
      have := ih hmem
      simp only [keys] at this
      simp [keys, hk, this]

/-- Putting a key that is there changes the value under it, and no other. -/
theorem insert_of_mem (hd : Distinct m) (h : k ∈ keys m) :
    insert m k v = m.map fun e => (e.1, if e.1 = k then v else e.2) := by
  induction m with
  | nil => simp [keys] at h
  | cons e rest ih =>
    obtain ⟨k', v'⟩ := e
    simp only [Distinct, keys, List.map_cons, List.nodup_cons] at hd
    simp only [insert, List.map_cons]
    by_cases hk : k' = k
    · subst hk
      simp only [if_true, List.cons.injEq, true_and]
      refine (List.map_id rest).symm.trans (List.map_congr_left fun e he => ?_)
      have hne : e.1 ≠ k' := by
        rintro rfl
        exact hd.1 (List.mem_map.2 ⟨e, he, rfl⟩)
      simp [hne]
    · have hmem : k ∈ keys rest := by
        simp only [keys, List.map_cons, List.mem_cons] at h
        exact h.resolve_left (fun e => hk e.symm)
      simp only [if_neg hk]
      rw [ih hd.2 hmem]

/-- What is bound after an insertion was bound before or is what was put. -/
theorem mem_insert {key : String} {value : α} (h : (k, v) ∈ insert m key value) :
    (k, v) ∈ m ∨ (k = key ∧ v = value) := by
  induction m with
  | nil =>
    simp only [insert, List.mem_singleton, Prod.mk.injEq] at h
    exact .inr h
  | cons e rest ih =>
    obtain ⟨k', v'⟩ := e
    simp only [insert] at h
    split at h
    · next hk =>
      rcases List.mem_cons.1 h with heq | hmem
      · cases heq; exact .inr ⟨hk, rfl⟩
      · exact .inl (List.mem_cons_of_mem _ hmem)
    · rcases List.mem_cons.1 h with heq | hmem
      · exact .inl (heq ▸ List.mem_cons_self)
      · exact (ih hmem).imp_left (List.mem_cons_of_mem _)

/-- Putting a new key appends it. -/
theorem insert_of_not_mem (h : k ∉ keys m) : insert m k v = m ++ [(k, v)] := by
  induction m with
  | nil => rfl
  | cons e rest ih =>
    obtain ⟨k', v'⟩ := e
    simp only [keys, List.map_cons, List.mem_cons, not_or] at h
    simp only [insert, if_neg (Ne.symm h.1), List.cons_append]
    rw [ih h.2]

/-- Putting a key twice keeps what was put last. -/
theorem insert_insert (m : Bindings α) (k : String) (v w : α) :
    insert (insert m k v) k w = insert m k w := by
  induction m with
  | nil => simp [insert]
  | cons e rest ih =>
    obtain ⟨k', v'⟩ := e
    by_cases hk : k' = k
    · simp [insert, hk]
    · simp [insert, hk, ih]

/-- Insertion keeps the keys distinct. -/
theorem Distinct.insert (hd : Distinct m) (k : String) (v : α) : Distinct (insert m k v) := by
  unfold Distinct at hd ⊢
  by_cases h : k ∈ keys m
  · rwa [keys_insert_of_mem h]
  · rw [insert_of_not_mem h]
    simp only [keys, List.map_append, List.map_cons, List.map_nil] at h ⊢
    rw [List.nodup_append]
    refine ⟨hd, by simp, ?_⟩
    rintro a ha b hb rfl
    simp only [List.mem_singleton] at hb
    exact h (hb ▸ ha)

/-- Putting values whose keys are new appends them. -/
theorem insertAll_eq_append {p : Bindings α} (hd : Distinct (m ++ p)) : insertAll m p = m ++ p := by
  induction p generalizing m with
  | nil => exact (List.append_nil m).symm
  | cons e rest ih =>
    obtain ⟨k, v⟩ := e
    have hk : k ∉ keys m := by
      intro hmem
      rw [Distinct, keys, List.map_append, List.nodup_append] at hd
      exact hd.2.2 k hmem k (by simp) rfl
    have hput : insertAll m ((k, v) :: rest) = insertAll (m ++ [(k, v)]) rest :=
      congrArg (insertAll · rest) (insert_of_not_mem hk)
    rw [hput, ih (by simpa using hd), List.append_assoc]
    rfl

/-! ## Removal -/

/-- Look-up after a removal. -/
theorem get?_erase (m : Bindings α) (key k : String) :
    get? (erase m key) k = if key = k then none else get? m k := by
  induction m with
  | nil => simp [erase]
  | cons e rest ih =>
    obtain ⟨k', v'⟩ := e
    simp only [erase] at ih ⊢
    by_cases h : k' = key
    · subst h
      rw [List.filter_cons_of_neg (by simp), ih]
      by_cases h' : k' = k <;> simp [h', get?_cons]
    · have hb : (k' != key) = true := by simpa using h
      by_cases h' : k' = k
      · subst h'; simp [hb, get?_cons, Ne.symm h]
      · simp [hb, get?_cons, h', ih]

/-- The keys after a removal. -/
theorem keys_erase (m : Bindings α) (key : String) :
    keys (erase m key) = (keys m).filter (· != key) := by
  simp only [keys, erase, List.filter_map]
  rfl

/-- Removal keeps the keys distinct. -/
theorem Distinct.erase (hd : Distinct m) (k : String) : Distinct (erase m k) := by
  unfold Distinct at hd ⊢
  rw [keys_erase]
  exact hd.filter _

/-- Removing a key that was put. -/
theorem erase_insert (m : Bindings α) (k : String) (v : α) :
    erase (insert m k v) k = erase m k := by
  induction m with
  | nil => simp [insert, erase]
  | cons e rest ih =>
    obtain ⟨k', v'⟩ := e
    by_cases hk : k' = k
    · simp [insert, erase, hk]
    · simpa [insert, erase, hk] using ih

/-- Removing a key that is not there changes nothing. -/
theorem erase_of_not_mem (h : k ∉ keys m) : erase m k = m := by
  simp only [erase, List.filter_eq_self]
  intro e he
  have : e.1 ∈ keys m := List.mem_map.2 ⟨e, he, rfl⟩
  simp only [bne_iff_ne]
  rintro rfl
  exact h this

end Bindings

end DocumentStore
