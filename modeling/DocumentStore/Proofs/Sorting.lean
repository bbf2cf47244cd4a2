import DocumentStore.Proofs.Comparison
import Mathlib.Data.List.Chain

/-!
# Sorting — the one stable order

A list of documents is sorted stably by keys when it has the same documents,
none of which the keys put before the one in front of it, and those that tie
come in the order they had (`SortKeys.StableSorted`). There is just one such
list: its first document is among the least, of these the first in the old
order, and what is left is sorted stably again (`StableSorted.unique`).
Sorting gives it, because the comparison it relies on is a total preorder
(`SortKeys.stableSorted_sort`).
-/

namespace DocumentStore

namespace SortKeys

variable {keys : SortKeys} {a b c : Value} {docs sorted sorted' : List Value}

/-! ## Ties and precedence -/

theorem Ties.refl (keys : SortKeys) (a : Value) : keys.Ties a a :=
  compareBy_eq_eq_iff.1 Std.ReflCmp.compare_self

theorem Ties.symm (h : keys.Ties a b) : keys.Ties b a :=
  compareBy_eq_eq_iff.1 (Std.OrientedCmp.eq_symm (compareBy_eq_eq_iff.2 h))

theorem Ties.trans (h : keys.Ties a b) (h' : keys.Ties b c) : keys.Ties a c :=
  compareBy_eq_eq_iff.1 (Std.TransCmp.eq_trans (compareBy_eq_eq_iff.2 h) (compareBy_eq_eq_iff.2 h'))

/-- A document precedes another just if the keys put it first or tie the two. -/
theorem precedes_iff : keys.precedes a b = true ↔ keys.Before a b ∨ keys.Ties a b := by
  rw [precedes, Ordering.isLE_iff_eq_lt_or_eq_eq, compareBy_eq_lt_iff, compareBy_eq_eq_iff]

theorem Ties.precedes (h : keys.Ties a b) : keys.precedes a b = true := precedes_iff.2 (.inr h)

theorem precedes_trans (keys : SortKeys) (a b c : Value) (h : keys.precedes a b = true)
    (h' : keys.precedes b c = true) : keys.precedes a c = true :=
  Std.TransCmp.isLE_trans h h'

theorem precedes_total (keys : SortKeys) (a b : Value) :
    (keys.precedes a b || keys.precedes b a) = true := by
  have hswap : keys.compareBy b a = (keys.compareBy a b).swap := Std.OrientedCmp.eq_swap
  rw [Bool.or_eq_true, precedes, precedes, hswap, Ordering.isLE_swap]
  cases keys.compareBy a b with
  | lt => exact .inl rfl
  | eq => exact .inl rfl
  | gt => exact .inr rfl

theorem ties_of_precedes (h : keys.precedes a b = true) (h' : keys.precedes b a = true) :
    keys.Ties a b :=
  compareBy_eq_eq_iff.1 (Std.OrientedCmp.isLE_antisymm h h')

/-! ## Stable sorting -/

/-- **Sorted stably.** -/
structure StableSorted (keys : SortKeys) (docs sorted : List Value) : Prop where
  /-- The documents are the same. -/
  perm : sorted.Perm docs
  /-- Neighbours are in order. -/
  ordered : sorted.IsChain fun a b => keys.Before a b ∨ keys.Ties a b
  /-- The documents that tie with any one are in the order they were in. -/
  stable : ∀ a, sorted.filter (keys.Ties a ·) = docs.filter (keys.Ties a ·)

instance (keys : SortKeys) : Trans (fun a b => keys.Before a b ∨ keys.Ties a b)
    (fun a b => keys.Before a b ∨ keys.Ties a b) (fun a b => keys.Before a b ∨ keys.Ties a b) where
  trans h h' := precedes_iff.1 (precedes_trans keys _ _ _ (precedes_iff.2 h) (precedes_iff.2 h'))

/-- Not only neighbours are in order. -/
theorem StableSorted.pairwise (h : StableSorted keys docs sorted) :
    sorted.Pairwise fun a b => keys.precedes a b = true :=
  h.ordered.pairwise.imp precedes_iff.2

/-- The first document of a list in order precedes all of any other list with
the same documents. -/
theorem precedes_of_mem (hsorted : (a :: docs).Pairwise fun a b => keys.precedes a b = true)
    (hb : b ∈ a :: docs) : keys.precedes a b = true := by
  rcases List.mem_cons.1 hb with rfl | hb
  · exact (Ties.refl keys b).precedes
  · exact (List.pairwise_cons.1 hsorted).1 b hb

/-- **Two lists in order are one list** if they have the same documents and the
same order of those that tie. -/
theorem eq_of_pairwise (hsorted : sorted.Pairwise fun a b => keys.precedes a b = true)
    (hsorted' : sorted'.Pairwise fun a b => keys.precedes a b = true)
    (hperm : sorted.Perm sorted')
    (hstable : ∀ a, sorted.filter (keys.Ties a ·) = sorted'.filter (keys.Ties a ·)) :
    sorted = sorted' := by
  induction sorted generalizing sorted' with
  | nil => exact (List.nil_perm.1 hperm).symm
  | cons a rest ih =>
    cases sorted' with
    | nil => exact absurd hperm.eq_nil (List.cons_ne_nil a rest)
    | cons b rest' =>
      -- each of the two first documents precedes the other, so that they tie
      have hab : keys.Ties a b := ties_of_precedes
        (precedes_of_mem hsorted (hperm.mem_iff.2 List.mem_cons_self))
        (precedes_of_mem hsorted' (hperm.mem_iff.1 List.mem_cons_self))
      have hheads := hstable a
      rw [List.filter_cons_of_pos (by simpa using Ties.refl keys a),
        List.filter_cons_of_pos (by simpa using hab)] at hheads
      obtain ⟨rfl, -⟩ := List.cons.inj hheads
      -- both lists go on without it, and so do the documents that tie with any one
      refine congrArg (a :: ·) (ih (List.pairwise_cons.1 hsorted).2
        (List.pairwise_cons.1 hsorted').2 hperm.cons_inv fun c => ?_)
      have hrest := hstable c
      rw [List.filter_cons, List.filter_cons] at hrest
      split at hrest
      · exact (List.cons.inj hrest).2
      · exact hrest

/-- **One list is sorted stably**, for given documents. -/
theorem StableSorted.unique (h : StableSorted keys docs sorted)
    (h' : StableSorted keys docs sorted') : sorted = sorted' :=
  eq_of_pairwise h.pairwise h'.pairwise (h.perm.trans h'.perm.symm) fun a =>
    (h.stable a).trans (h'.stable a).symm

/-! ## Sorting -/

/-- Without keys nothing is moved. -/
theorem sort_eq_mergeSort (keys : SortKeys) (docs : List Value) :
    keys.sort docs = docs.mergeSort keys.precedes := by
  rw [sort]
  split
  · next h =>
    rw [List.isEmpty_iff.1 h]
    exact (List.mergeSort_of_pairwise (List.pairwise_of_forall fun _ _ => rfl)).symm
  · rfl

/-- **Sorting sorts stably.** The documents that tie with one are in order as
they are, so that a sort leaves them so. -/
theorem stableSorted_sort (keys : SortKeys) (docs : List Value) :
    StableSorted keys docs (keys.sort docs) := by
  rw [sort_eq_mergeSort]
  have hperm := List.mergeSort_perm docs keys.precedes
  have hordered := List.pairwise_mergeSort (precedes_trans keys) (precedes_total keys) docs
  refine ⟨hperm, (hordered.imp precedes_iff.1).isChain, fun a => ?_⟩
  have htied : (docs.filter (keys.Ties a ·)).Pairwise fun b c => keys.precedes b c = true := by
    refine List.pairwise_filter.2 (List.pairwise_of_forall fun b c hb hc => ?_)
    exact ((of_decide_eq_true hb).symm.trans (of_decide_eq_true hc)).precedes
  have hkept := (List.sublist_mergeSort (precedes_trans keys) (precedes_total keys) htied
    List.filter_sublist).filter (keys.Ties a ·)
  rw [List.filter_filter] at hkept
  simp only [Bool.and_self] at hkept
  exact (hkept.eq_of_length (hperm.symm.filter _).length_eq).symm

/-- A stable sort is what sorting gives. -/
theorem StableSorted.eq_sort (h : StableSorted keys docs sorted) : sorted = keys.sort docs :=
  h.unique (stableSorted_sort keys docs)

/-- **Sorting is the stable sort by keys.** Of any list of documents, objects or
not, it gives the list with the same documents, neighbours of which the first
key that tells them apart has in its direction, and in which those that no key
tells apart are in the order they were in, in either direction. There is no
other such list. -/
theorem sort_iff_stableSorted (keys : SortKeys) (docs sorted : List Value) :
    StableSorted keys docs sorted ↔ sorted = keys.sort docs :=
  ⟨fun h => h.unique (stableSorted_sort keys docs), fun h => h ▸ stableSorted_sort keys docs⟩

end SortKeys

end DocumentStore
