import DocumentStore.Patch

/-!
# Fieldwise — what a patch makes of each field, and their order

A patch is applied change by change, in place. What one change does is not in
the way of the next, as no field is named twice: every field that is named
becomes what its operator makes of the value in the original document, every
other one stays, and so does the order, with new fields behind the old ones in
the order of the patch (`ChangedBy`). There is one such document, the one a
patch gives (`changedBy_iff`). The null that stands in for a value while its
operator is at work is never left behind (`ChangedBy.null`).

Nothing is said about what operators do, and they may be of any kind.
-/

namespace DocumentStore

open Bindings

universe u

/-! ## One change -/

namespace Document

variable {doc : Document} {name : String} {f : Option Value → Option Value}

/-- Which fields are there after a change. -/
theorem mem_keys_change_iff {k : String} :
    k ∈ keys (doc.change name f) ↔
      if name = k then (f (doc.get? k)).isSome = true else k ∈ keys doc := by
  rw [← contains_iff, contains, get?_change]
  split
  · rfl
  · exact contains_iff

theorem distinct_change (hdoc : Distinct doc) : Distinct (doc.change name f) := by
  rw [change_eq]
  split
  · exact hdoc.insert name _
  · exact hdoc.erase name

/-- **The order after a change**: what is left, and behind it the field if it is new. -/
theorem keys_change (doc : Document) (name : String) (f : Option Value → Option Value) :
    keys (doc.change name f) =
      (keys doc).filter (· ∈ keys (doc.change name f)) ++
        [name].filter fun k => k ∉ keys doc ∧ k ∈ keys (doc.change name f) := by
  simp only [mem_keys_change_iff]
  rw [change_eq]
  cases hf : f (doc.get? name) with
  | none =>
    have hnew : [name].filter (fun k => decide (k ∉ keys doc ∧
        if name = k then (f (doc.get? k)).isSome = true else k ∈ keys doc)) = [] := by
      simp [hf]
    rw [hnew, List.append_nil, keys_erase]
    refine List.filter_congr fun k hk => ?_
    by_cases hname : name = k
    · simp [← hname, hf]
    · simp [hname, Ne.symm hname, hk]
  | some v =>
    have hold : (keys doc).filter (fun k => decide
        (if name = k then (f (doc.get? k)).isSome = true else k ∈ keys doc)) = keys doc := by
      refine List.filter_eq_self.2 fun k hk => ?_
      by_cases hname : name = k
      · simp [← hname, hf]
      · simp [hname, hk]
    rw [hold]
    by_cases hmem : name ∈ keys doc
    · simp [keys_insert_of_mem hmem, hmem]
    · have hnew : [name].filter (fun k => decide (k ∉ keys doc ∧
          if name = k then (f (doc.get? k)).isSome = true else k ∈ keys doc)) = [name] := by
        simp [hf, hmem]
      rw [hnew]
      exact (congrArg keys (insert_of_not_mem hmem)).trans List.map_append

end Document

/-! ## One change after the other -/

section Changes

variable {α : Type u} {act : α → Option Value → Option Value} {changes : Bindings α}
  {doc result : Document}

/-- Changes fields one after the other, by operators of some kind. -/
def Document.changeEach (doc : Document) (act : α → Option Value → Option Value)
    (changes : Bindings α) : Document :=
  changes.foldl (fun doc (name, a) => doc.change name (act a)) doc

/-- What comes of a document when every field that is named is replaced by what
its operator makes of the value there, or of nothing, and all else is left. -/
structure ChangedBy (act : α → Option Value → Option Value) (changes : Bindings α)
    (doc result : Document) : Prop where
  distinct : Distinct result
  named : ∀ name a, (name, a) ∈ changes → result.get? name = act a (doc.get? name)
  unnamed : ∀ name, name ∉ keys changes → result.get? name = doc.get? name
  /-- The fields that are left, as they were, and the new ones as they are named. -/
  order : keys result = (keys doc).filter (· ∈ keys result) ++
    (keys changes).filter fun name => name ∉ keys doc ∧ name ∈ keys result

namespace ChangedBy

/-- Presence in what comes of changes is decided by the look-up. -/
theorem get?_eq {result' : Document} (h : ChangedBy act changes doc result)
    (h' : ChangedBy act changes doc result') (name : String) :
    result'.get? name = result.get? name := by
  by_cases hname : name ∈ keys changes
  · obtain ⟨a, hmem⟩ := mem_keys_iff.1 hname
    rw [h.named name a hmem, h'.named name a hmem]
  · rw [h.unnamed name hname, h'.unnamed name hname]

/-- **Changes have one result.** -/
theorem eq {result' : Document} (h : ChangedBy act changes doc result)
    (h' : ChangedBy act changes doc result') : result' = result := by
  have hmem (name : String) : name ∈ keys result' ↔ name ∈ keys result := by
    rw [← contains_iff, ← contains_iff, contains, contains, h.get?_eq h']
  refine h.distinct.eq_of_keys ?_ (h.get?_eq h')
  refine h'.order.trans (Eq.trans ?_ h.order.symm)
  simp only [hmem]

/-- **Null is where an operator put it**, or where it was. -/
theorem null (h : ChangedBy act changes doc result) {name : String}
    (hnull : result.get? name = some .null) :
    (∃ a, (name, a) ∈ changes ∧ act a (doc.get? name) = some .null) ∨
      (name ∉ keys changes ∧ doc.get? name = some .null) := by
  by_cases hname : name ∈ keys changes
  · obtain ⟨a, hmem⟩ := mem_keys_iff.1 hname
    exact .inl ⟨a, hmem, (h.named name a hmem).symm.trans hnull⟩
  · exact .inr ⟨hname, (h.unnamed name hname).symm.trans hnull⟩

/-- No changes change nothing. -/
theorem nil (hdoc : Distinct doc) : ChangedBy act [] doc doc where
  distinct := hdoc
  named _ _ hmem := nomatch hmem
  unnamed _ _ := rfl
  order := by
    have hall : (keys doc).filter (· ∈ keys doc) = keys doc :=
      List.filter_eq_self.2 fun k hk => decide_eq_true hk
    rw [hall]
    exact (List.append_nil _).symm

/-- **A change in front of others**, of fields that it is not of. -/
theorem cons {name : String} {a : α} (hname : name ∉ keys changes)
    (h : ChangedBy act changes (doc.change name (act a)) result) :
    ChangedBy act ((name, a) :: changes) doc result := by
  have hget : result.get? name = act a (doc.get? name) := by
    rw [h.unnamed name hname, Document.get?_change, if_pos rfl]
  have hother {k : String} (hk : name ≠ k) : (doc.change name (act a)).get? k = doc.get? k := by
    rw [Document.get?_change, if_neg hk]
  refine ⟨h.distinct, fun k b hmem => ?_, fun k hk => ?_, ?_⟩
  · rcases List.mem_cons.1 hmem with heq | hmem
    · obtain ⟨rfl, rfl⟩ := Prod.mk.inj heq
      exact hget
    · have hk : name ≠ k := fun heq => hname (heq ▸ mem_keys_iff.2 ⟨b, hmem⟩)
      rw [h.named k b hmem, hother hk]
  · obtain ⟨hk, hrest⟩ := not_or.1 (mt List.mem_cons.2 hk)
    rw [h.unnamed k hrest, hother (Ne.symm hk)]
  · have hleft : name ∈ keys (doc.change name (act a)) ↔ name ∈ keys result := by
      rw [Document.mem_keys_change_iff, if_pos rfl, ← hget, ← contains_iff, contains]
    have hothers {k : String} (hk : name ≠ k) :
        k ∈ keys (doc.change name (act a)) ↔ k ∈ keys doc := by
      rw [Document.mem_keys_change_iff, if_neg hk]
    -- what the first change leaves, the others leave, but for fields they take out
    have hold : (keys (doc.change name (act a))).filter (· ∈ keys result) =
        (keys doc).filter (· ∈ keys result) ++
          [name].filter fun k => k ∉ keys doc ∧ k ∈ keys result := by
      rw [Document.keys_change, List.filter_append, List.filter_filter, List.filter_filter]
      congr 1
      · refine List.filter_congr fun k hk => ?_
        by_cases hname : name = k
        · simp [← hname, hleft]
        · simp [hothers hname, hk]
      · refine List.filter_congr fun k hk => ?_
        rw [List.mem_singleton.1 hk]
        simp [hleft]
    have hnew : (keys changes).filter (fun k =>
          k ∉ keys (doc.change name (act a)) ∧ k ∈ keys result) =
        (keys changes).filter fun k => k ∉ keys doc ∧ k ∈ keys result := by
      refine List.filter_congr fun k hk => ?_
      simp only [hothers fun heq => hname (heq ▸ hk)]
    refine h.order.trans ?_
    rw [hold, hnew, List.append_assoc, ← List.filter_append]
    rfl

end ChangedBy

/-- **What comes of changes** of distinct fields, and that nothing else does. -/
theorem changedBy_iff (hdoc : Distinct doc) (hchanges : Distinct changes) :
    ChangedBy act changes doc result ↔ result = doc.changeEach act changes := by
  have hchanged : ChangedBy act changes doc (doc.changeEach act changes) := by
    induction changes generalizing doc with
    | nil => exact .nil hdoc
    | cons change rest ih =>
      obtain ⟨name, a⟩ := change
      obtain ⟨hname, hrest⟩ := List.nodup_cons.1 hchanges
      exact (ih (Document.distinct_change hdoc) hrest).cons hname
  exact ⟨fun h => hchanged.eq h, fun h => h ▸ hchanged⟩

end Changes

/-- **A patch changes each field on its own.** What it makes of a document is the
one document in which every field it names is what the update makes of the field's
value, and the others are as they were, in order; null is in it only where the
update gave null, or where it was. Operators of any other kind do the same. -/
theorem changes_each_field {doc : Document} (hdoc : Distinct doc) :
    (∀ p : Patch, Distinct p →
      (∀ result, ChangedBy FieldUpdate.apply p doc result ↔ result = p.apply doc) ∧
      ∀ name, (p.apply doc).get? name = some .null →
        (∃ update, (name, update) ∈ p ∧ update.apply (doc.get? name) = some .null) ∨
          (name ∉ keys p ∧ doc.get? name = some .null)) ∧
    ∀ {α : Type} (act : α → Option Value → Option Value) (changes : Bindings α),
      Distinct changes → ∀ result,
        ChangedBy act changes doc result ↔ result = doc.changeEach act changes := by
  refine ⟨fun p hp => ⟨fun result => changedBy_iff hdoc hp, fun name hnull => ?_⟩,
    fun act changes hchanges result => changedBy_iff hdoc hchanges⟩
  have hchanged : ChangedBy FieldUpdate.apply p doc (p.apply doc) :=
    (changedBy_iff hdoc hp).2 rfl
  exact hchanged.null hnull

/-- A field goes, one comes and one is counted up, where the patch has them in
another order. -/
theorem changes_each_field_mixed :
    let one : Value := .number (.integer ⟨1, by decide, by decide⟩)
    let doc : Document := [("a", .null), ("b", one), ("c", .null)]
    let p : Patch := [("d", .push one), ("b", .inc one), ("a", .remove)]
    Distinct doc ∧ Distinct p ∧ keys (p.apply doc) = ["b", "c", "d"] ∧
      (p.apply doc).get? "b" = Arithmetic.add.apply (some one) one ∧
      (p.apply doc).get? "c" = some .null := by
  intro one doc p
  have hdoc : Distinct doc := by decide
  have hp : Distinct p := by decide
  have hchanged := (((changes_each_field hdoc).1 p hp).1 _).2 rfl
  refine ⟨hdoc, hp, by decide +kernel, ?_, ?_⟩
  · exact hchanged.named "b" (.inc one) (by simp [p])
  · exact hchanged.unnamed "c" (by decide)

end DocumentStore
