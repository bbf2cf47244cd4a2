import DocumentStore.Proofs.Paging

/-!
# Tiebreak — keys behind other keys

A list of keys behind another only decides between documents that the first
keys tie. So a stable sort by the keys behind, and then by the keys in front, is
the sort by all of them (`SortKeys.sort_append`): the second sort leaves what it
ties as the first has put it. Compared with the sort by the keys in front alone,
documents change places with documents they tie with, and with no others
(`SortKeys.forall₂_ties_sort_append`); of those that tie with any one the keys
behind make the stable sort (`SortKeys.filter_ties_sort_append`).
-/

namespace DocumentStore

namespace SortKeys

variable {keys later : SortKeys} {a b : Value} {docs sorted sorted' : List Value}

/-! ## Keys in front of others -/

/-- The keys behind are asked where those in front tie. -/
theorem compareBy_append (keys later : SortKeys) (a b : Value) :
    (keys ++ later).compareBy a b = (keys.compareBy a b).then (later.compareBy a b) := by
  induction keys with
  | nil => rfl
  | cons key rest ih =>
    obtain ⟨field, direction⟩ := key
    rw [List.cons_append, compareBy, ih, compareBy, Ordering.then_assoc]

theorem ties_append_iff : (keys ++ later).Ties a b ↔ keys.Ties a b ∧ later.Ties a b := by
  rw [← compareBy_eq_eq_iff, ← compareBy_eq_eq_iff, ← compareBy_eq_eq_iff, compareBy_append,
    Ordering.then_eq_eq]

/-- All keys allow an order that the keys in front allow, if those behind do so
where they are asked. -/
theorem precedes_append_iff : (keys ++ later).precedes a b = true ↔
    keys.precedes a b = true ∧ (keys.Ties a b → later.precedes a b = true) := by
  rw [precedes, precedes, precedes, compareBy_append, ← compareBy_eq_eq_iff]
  cases keys.compareBy a b <;> simp

/-! ## Sorting twice -/

/-- In a list in order by some keys, in which moreover those that tie with any
one are in order by others, any two documents are in order by both: by the
others where the first tie. -/
theorem pairwise_precedes_append
    (hkeys : docs.Pairwise fun a b => keys.precedes a b = true)
    (hlater : ∀ a, (docs.filter (keys.Ties a ·)).Pairwise fun b c => later.precedes b c = true) :
    docs.Pairwise fun a b => (keys ++ later).precedes a b = true := by
  induction docs with
  | nil => exact .nil
  | cons a rest ih =>
    obtain ⟨hhead, htail⟩ := List.pairwise_cons.1 hkeys
    refine List.pairwise_cons.2 ⟨fun b hb => ?_, ih htail fun c => ?_⟩
    · -- where the first document ties with `b`, both are among those that tie with it
      refine precedes_append_iff.2 ⟨hhead b hb, fun hties => ?_⟩
      have hclass := hlater a
      rw [List.filter_cons_of_pos (by simpa using Ties.refl keys a)] at hclass
      exact (List.pairwise_cons.1 hclass).1 b (List.mem_filter.2 ⟨hb, by simpa using hties⟩)
    · have hsub : (rest.filter (keys.Ties c ·)).Sublist ((a :: rest).filter (keys.Ties c ·)) :=
        (List.sublist_cons_self a rest).filter _
      exact (hlater c).sublist hsub

/-- **A sort by keys after a sort by others** is the stable sort by both, the
later sort's keys in front. -/
theorem stableSorted_append (hlater : StableSorted later docs sorted)
    (hkeys : StableSorted keys sorted sorted') : StableSorted (keys ++ later) docs sorted' where
  perm := hkeys.perm.trans hlater.perm
  ordered := by
    have hboth := pairwise_precedes_append hkeys.pairwise fun a => by
      rw [hkeys.stable a]
      exact hlater.pairwise.sublist List.filter_sublist
    exact (hboth.imp precedes_iff.1).isChain
  stable a := by
    have hsplit (docs : List Value) : docs.filter ((keys ++ later).Ties a ·) =
        (docs.filter (keys.Ties a ·)).filter (later.Ties a ·) := by
      rw [List.filter_filter]
      exact List.filter_congr fun b _ => by simp [ties_append_iff, Bool.and_comm]
    -- the second sort keeps the order of what the keys in front tie, the first of the rest
    have hfirst : (sorted.filter (later.Ties a ·)).filter (keys.Ties a ·) =
        (docs.filter (later.Ties a ·)).filter (keys.Ties a ·) := by rw [hlater.stable a]
    rw [hsplit, hsplit, hkeys.stable a, List.filter_comm, hfirst, List.filter_comm]

theorem sort_append (keys later : SortKeys) (docs : List Value) :
    (keys ++ later).sort docs = keys.sort (later.sort docs) :=
  (stableSorted_append (stableSorted_sort later docs) (stableSorted_sort keys _)).eq_sort.symm

/-! ## Sorting what is in order -/

/-- **A sort changes nothing** of a list just if the list is in order. -/
theorem sort_eq_self_iff :
    keys.sort docs = docs ↔ docs.IsChain fun a b => keys.Before a b ∨ keys.Ties a b := by
  constructor
  · intro h
    exact h ▸ (stableSorted_sort keys docs).ordered
  · intro h
    have hself : StableSorted keys docs docs := ⟨.refl docs, h, fun _ => rfl⟩
    exact hself.eq_sort.symm

/-! ## What a tiebreak moves -/

/-- A sort may as well be made of any part of a list. -/
theorem filter_sort (keys : SortKeys) (docs : List Value) (p : Value → Bool) :
    (keys.sort docs).filter p = keys.sort (docs.filter p) := by
  have hsorted := stableSorted_sort keys docs
  have hfiltered : StableSorted keys (docs.filter p) ((keys.sort docs).filter p) := by
    refine ⟨hsorted.perm.filter p, ?_, fun a => ?_⟩
    · exact ((hsorted.pairwise.sublist List.filter_sublist).imp precedes_iff.1).isChain
    · rw [List.filter_comm, hsorted.stable a, List.filter_comm]
  exact hfiltered.eq_sort

/-- Of the documents that tie with any one the keys behind make the stable
sort. -/
theorem filter_ties_sort_append (keys later : SortKeys) (docs : List Value) (a : Value) :
    ((keys ++ later).sort docs).filter (keys.Ties a ·) =
      later.sort ((keys.sort docs).filter (keys.Ties a ·)) := by
  rw [sort_append, (stableSorted_sort keys _).stable a, filter_sort,
    (stableSorted_sort keys docs).stable a]

/-- The first documents of two lists in order tie, if each list has a document
that ties with the first of the other. -/
theorem ties_of_countP_pos (hsorted : (a :: sorted).Pairwise fun a b => keys.precedes a b = true)
    (hsorted' : (b :: sorted').Pairwise fun a b => keys.precedes a b = true)
    (hb : 0 < (a :: sorted).countP (keys.Ties b ·))
    (ha : 0 < (b :: sorted').countP (keys.Ties a ·)) : keys.Ties a b := by
  obtain ⟨c, hc, hbc⟩ := List.countP_pos_iff.1 hb
  obtain ⟨d, hd, had⟩ := List.countP_pos_iff.1 ha
  have hbc : keys.Ties b c := of_decide_eq_true hbc
  have had : keys.Ties a d := of_decide_eq_true had
  have hab : keys.precedes a b = true :=
    precedes_trans keys a c b (precedes_of_mem hsorted hc) hbc.symm.precedes
  have hba : keys.precedes b a = true :=
    precedes_trans keys b d a (precedes_of_mem hsorted' hd) had.symm.precedes
  exact ties_of_precedes hab hba

/-- **Two lists in order tie document by document**, if they have equally many
documents that tie with any one. -/
theorem forall₂_ties (hsorted : sorted.Pairwise fun a b => keys.precedes a b = true)
    (hsorted' : sorted'.Pairwise fun a b => keys.precedes a b = true)
    (hcount : ∀ a, sorted.countP (keys.Ties a ·) = sorted'.countP (keys.Ties a ·)) :
    List.Forall₂ keys.Ties sorted sorted' := by
  have hself (a : Value) (rest : List Value) : 0 < (a :: rest).countP (keys.Ties a ·) :=
    List.countP_pos_iff.2 ⟨a, List.mem_cons_self, by simpa using Ties.refl keys a⟩
  induction sorted generalizing sorted' with
  | nil =>
    cases sorted' with
    | nil => exact .nil
    | cons b rest' => exact absurd (hcount b) (Nat.ne_of_lt (hself b rest'))
  | cons a rest ih =>
    cases sorted' with
    | nil => exact absurd (hcount a) (Nat.ne_of_gt (hself a rest))
    | cons b rest' =>
      have hab : keys.Ties a b := ties_of_countP_pos hsorted hsorted'
        (hcount b ▸ hself b rest') (hcount a ▸ hself a rest)
      refine .cons hab (ih (List.pairwise_cons.1 hsorted).2 (List.pairwise_cons.1 hsorted').2
        fun c => ?_)
      -- both heads count or neither does
      have hiff : keys.Ties c a ↔ keys.Ties c b := ⟨fun h => h.trans hab, fun h => h.trans hab.symm⟩
      have hcounts := hcount c
      simp only [List.countP_cons, hiff] at hcounts
      omega

/-- **Documents change places with documents they tie with**, and no others,
when keys are appended. -/
theorem forall₂_ties_sort_append (keys later : SortKeys) (docs : List Value) :
    List.Forall₂ keys.Ties (keys.sort docs) ((keys ++ later).sort docs) := by
  rw [sort_append]
  have hsorted := stableSorted_sort keys docs
  have hsorted' := stableSorted_sort keys (later.sort docs)
  have hperm := hsorted.perm.trans ((stableSorted_sort later docs).perm.symm.trans
    hsorted'.perm.symm)
  exact forall₂_ties hsorted.pairwise hsorted'.pairwise fun a => hperm.countP_eq _

/-! ## Keys compose -/

/-- **Keys compose.** A sort by keys followed by others is the sort by those
behind, followed by the sort by those in front; a sort by the same keys again,
like that of any list in order, changes nothing. What is read of a view to which
a key is appended are the documents read of the view before, each in a place
where one was that ties with it on all earlier keys; and of those that tie with
any one the new key makes the stable sort. -/
theorem keys_compose (keys : SortKeys) (docs : List Value) :
    (∀ later, (keys ++ later).sort docs = keys.sort (later.sort docs)) ∧
    keys.sort (keys.sort docs) = keys.sort docs ∧
    (keys.sort docs = docs ↔ docs.IsChain fun a b => keys.Before a b ∨ keys.Ties a b) ∧
    ∀ (v : View) (db : Database) (field : String) (direction : Direction),
      let earlier := v.options.orderBy
      let read := v.unpaged.get db
      let read' := (v.orderBy field direction).unpaged.get db
      read'.Perm read ∧ List.Forall₂ earlier.Ties read read' ∧
        ∀ a, read'.filter (earlier.Ties a ·) =
          SortKeys.sort [(field, direction)] (read.filter (earlier.Ties a ·)) := by
  refine ⟨fun later => sort_append keys later docs,
    sort_eq_self_iff.2 (stableSorted_sort keys docs).ordered, sort_eq_self_iff,
    fun v db field direction => ?_⟩
  intro earlier read read'
  have hread : read = earlier.sort (v.documents db) := View.get_unpaged v db
  have hread' : read' = (earlier ++ [(field, direction)]).sort (v.documents db) :=
    View.get_unpaged (v.orderBy field direction) db
  rw [hread, hread']
  exact ⟨(stableSorted_sort _ _).perm.trans (stableSorted_sort _ _).perm.symm,
    forall₂_ties_sort_append _ _ _, filter_ties_sort_append _ _ _⟩

end SortKeys

end DocumentStore
