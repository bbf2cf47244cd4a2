import DocumentStore.Proofs.Soundness
import Mathlib.Data.List.Nodup

/-!
# Scopes — what a filtered view sees

A filtered view goes through the ids its filter selected, in the order of
the selection, and keeps what is still stored under its generation
(`Entries.live`). A scope that a filter made stays in the order of the
collection for good, since a collection never reorders what it keeps
(`Scoped`, `Scoped.evolves`). So the view sees the collection, in the
collection's order, without what its scope does not admit
(`View.visible_eq_filter`), and its bulk mutations are the edits that one
pass over the collection would make (`View.update_eq`, `View.remove_eq`).
-/

namespace DocumentStore

/-- Of a list without repetitions, the members of a sublist are the
sublist. -/
theorem filter_mem_eq_of_sublist {α : Type} [BEq α] [LawfulBEq α] {l kept : List α}
    (hl : l.Nodup) (h : List.Sublist kept l) : l.filter (· ∈ kept) = kept := by
  induction h with
  | slnil => rfl
  | @cons kept l a h ih =>
    obtain ⟨ha, hl⟩ := List.nodup_cons.1 hl
    rw [List.filter_cons_of_neg (by simpa using fun hmem => ha (h.subset hmem)), ih hl]
  | @cons_cons kept l a h ih =>
    obtain ⟨ha, hl⟩ := List.nodup_cons.1 hl
    have hrest : l.filter (· ∈ a :: kept) = l.filter (· ∈ kept) := by
      refine List.filter_congr fun b hb => ?_
      have hne : b ≠ a := fun h => ha (h ▸ hb)
      simp [hne]
    rw [List.filter_cons_of_pos (by simp), hrest, ih hl]

namespace Entries

variable {entries part part' : Entries} {scope : Bindings Nat} {id : String} {e : Entry}

theorem nodup_stamps (hd : Bindings.Distinct entries) : entries.stamps.Nodup :=
  List.Nodup.of_map Prod.fst (by
    have := keys_stamps entries
    unfold Bindings.keys at this
    rw [this]
    exact hd)

/-- Lists of entries of one collection are told apart by their stamps. -/
theorem eq_of_stamps_eq (hd : Bindings.Distinct entries) (hp : ∀ e ∈ part, e ∈ entries)
    (hp' : ∀ e ∈ part', e ∈ entries) (h : part.stamps = part'.stamps) : part = part' := by
  induction part generalizing part' with
  | nil =>
    cases part' with
    | nil => rfl
    | cons e' rest' => cases h
  | cons e rest ih =>
    cases part' with
    | nil => cases h
    | cons e' rest' =>
      obtain ⟨hhead, htail⟩ := List.cons.inj h
      obtain ⟨hid, -⟩ := Prod.mk.inj hhead
      have he : (e'.1, e.2) ∈ entries := hid ▸ hp e List.mem_cons_self
      have he' : (e'.1, e'.2) ∈ entries := hp' e' List.mem_cons_self
      have heq : e = e' := Prod.ext hid (hd.eq_of_mem he he')
      rw [heq, ih (fun e he => hp e (List.mem_cons_of_mem _ he))
        (fun e he => hp' e (List.mem_cons_of_mem _ he)) htail]

/-- What is live of a scope. -/
theorem mem_live_iff (hd : Bindings.Distinct entries) :
    (id, e) ∈ entries.live scope ↔ (id, e.generation) ∈ scope ∧ (id, e) ∈ entries := by
  simp only [live, List.mem_filterMap, Prod.exists, Option.map_eq_some_iff,
    Option.filter_eq_some_iff, beq_iff_eq, Prod.mk.injEq]
  constructor
  · rintro ⟨id', g, hmem, e', ⟨hget, rfl⟩, rfl, rfl⟩
    exact ⟨hmem, Bindings.mem_of_get? hget⟩
  · rintro ⟨hscope, hmem⟩
    exact ⟨id, e.generation, hscope, e, ⟨Bindings.get?_of_mem hd hmem, rfl⟩, rfl, rfl⟩

/-- An entry that is stored under its stamp is live. -/
theorem live_cons_of_get? (h : entries.get? id = some e) :
    entries.live ((id, e.generation) :: scope) = (id, e) :: entries.live scope :=
  List.filterMap_cons_some (by simp [h])

/-- A stamp under which nothing is stored is passed over. -/
theorem live_cons_of_ne {g : Nat} (h : ∀ e, entries.get? id = some e → e.generation ≠ g) :
    entries.live ((id, g) :: scope) = entries.live scope := by
  refine List.filterMap_cons_none ?_
  simp only [Option.map_eq_none_iff, Option.filter_eq_none_iff, beq_iff_eq]
  exact h

/-- The live stamps of a scope, in its order. -/
theorem stamps_live (hd : Bindings.Distinct entries) (scope : Bindings Nat) :
    (entries.live scope).stamps = scope.filter (· ∈ entries.stamps) := by
  induction scope with
  | nil => rfl
  | cons p rest ih =>
    obtain ⟨id, g⟩ := p
    by_cases hmem : (id, g) ∈ entries.stamps
    · obtain ⟨e, he, rfl⟩ := mem_stamps_iff.1 hmem
      rw [List.filter_cons_of_pos (by simpa using hmem),
        live_cons_of_get? (Bindings.get?_of_mem hd he)]
      exact congrArg ((id, e.generation) :: ·) ih
    · rw [List.filter_cons_of_neg (by simpa using hmem), live_cons_of_ne fun e he hg =>
        hmem (mem_stamps_iff.2 ⟨e, Bindings.mem_of_get? he, hg⟩)]
      exact ih

/-- How much of a scope is live depends on the stamps alone. -/
theorem length_live_eq {entries' : Entries} (hd : Bindings.Distinct entries)
    (hd' : Bindings.Distinct entries') (h : entries'.stamps = entries.stamps) :
    (entries'.live scope).length = (entries.live scope).length := by
  have hlen (part : Entries) : part.stamps.length = part.length := List.length_map _
  rw [← hlen, ← hlen, stamps_live hd', stamps_live hd, h]

end Entries

/-! ## Scopes in order -/

/-- A scope as a filter makes it: ids are distinct, generations were given
out, and what is live of it is in the order of the collection. -/
structure Database.Scoped (db : Database) (r : RootId) (scope : Bindings Nat) : Prop where
  distinct : Bindings.Distinct scope
  issued : ∀ p ∈ scope, p.2 < db.generation
  ordered : List.Sublist (scope.filter (· ∈ (db.entries r).stamps)) (db.entries r).stamps

namespace Database

variable {db db' : Database} {r : RootId} {scope : Bindings Nat}

/-- **A scope stays in order.** New stamps are none of its own, since their
generations are later, and of the old ones the collection keeps the order. -/
theorem Scoped.evolves (h : db.Scoped r scope) (hd : Bindings.Distinct (db.entries r))
    (hev : Evolves db db') : db'.Scoped r scope where
  distinct := h.distinct
  issued p hp := Nat.lt_of_lt_of_le (h.issued p hp) hev.generation
  ordered := by
    obtain ⟨kept, new, heq, hkept, hnew⟩ := hev.stamps r
    -- what the collection has of the scope now is what it had of it then and kept
    have hold : scope.filter (· ∈ (db'.entries r).stamps) =
        (scope.filter (· ∈ (db.entries r).stamps)).filter (· ∈ kept) := by
      rw [List.filter_filter]
      refine List.filter_congr fun p hp => ?_
      have hnot : p ∉ new := fun hmem => absurd (hnew p hmem) (Nat.not_le_of_lt (h.issued p hp))
      have hsub : p ∈ kept → p ∈ (db.entries r).stamps := fun hmem => hkept.subset hmem
      rw [heq, ← Bool.decide_and]
      refine decide_eq_decide.2 ?_
      rw [List.mem_append]
      exact ⟨fun hmem => ⟨hmem.resolve_right hnot, hsub (hmem.resolve_right hnot)⟩,
        fun hmem => .inl hmem.1⟩
    rw [hold, heq]
    refine (h.ordered.filter _).trans ?_
    rw [filter_mem_eq_of_sublist (Entries.nodup_stamps hd) hkept]
    exact List.sublist_append_left kept new

/-- **What is live of a scope in order is a part of the collection, in the
collection's order.** -/
theorem Scoped.live_eq_filter (h : db.Scoped r scope) (hd : Bindings.Distinct (db.entries r)) :
    (db.entries r).live scope =
      (db.entries r).filter fun e => scope.get? e.1 == some e.2.generation := by
  -- both are made of entries of the collection, so that it is enough to compare stamps
  refine Entries.eq_of_stamps_eq hd (fun e he => ((Entries.mem_live_iff hd).1 he).2)
    (fun e he => (List.mem_filter.1 he).1) ?_
  have hfilter :
      Entries.stamps ((db.entries r).filter fun e => scope.get? e.1 == some e.2.generation) =
        (db.entries r).stamps.filter (· ∈ scope) := by
    rw [Entries.stamps, Entries.stamps, Bindings.mapValues, Bindings.mapValues, List.filter_map]
    refine congrArg _ (List.filter_congr fun e _ => ?_)
    rw [Bool.eq_iff_iff]
    simp [Bindings.get?_eq_some_iff h.distinct]
  rw [Entries.stamps_live hd, hfilter]
  have hlive := filter_mem_eq_of_sublist (Entries.nodup_stamps hd) h.ordered
  rw [← hlive]
  exact List.filter_congr fun p hp => by simp [hp]

/-- Patching what is live of a scope, one entry after the other, patches
what one pass over the collection would. -/
theorem patchLive_eq {entries : Entries} (hs : Bindings.Distinct scope)
    (hd : Bindings.Distinct entries) (p : Patch) :
    entries.patchLive p scope = ((entries.live scope).length, entries.map fun e =>
      (e.1, if scope.get? e.1 == some e.2.generation then e.2.patch p else e.2)) := by
  induction scope generalizing entries with
  | nil => simp [Entries.patchLive, Entries.live]
  | cons q rest ih =>
    obtain ⟨id, g⟩ := q
    obtain ⟨hid, hrest⟩ := List.nodup_cons.1 hs
    have hnone : Bindings.get? rest id = none := Bindings.get?_eq_none_iff.2 hid
    by_cases hlive : ∃ e, entries.get? id = some e ∧ e.generation = g
    · -- the entry is patched now, and its id comes no more in the rest of the scope
      obtain ⟨e, hget, rfl⟩ := hlive
      have hmodify := hd.modify id (Entry.patch p)
      have hstamps :
          Entries.stamps (Bindings.modify entries id (Entry.patch p)) = entries.stamps := by
        rw [Bindings.modify_eq_map]
        exact Entries.stamps_map fun e' => by split <;> rfl
      simp only [Entries.patchLive, hget, Option.any_some, beq_self_eq_true, if_true]
      rw [ih hrest hmodify, Entries.live_cons_of_get? hget,
        Entries.length_live_eq hd hmodify hstamps]
      refine congrArg (Prod.mk _) ?_
      simp only [Bindings.modify_eq_map, List.map_map]
      refine List.map_congr_left fun e' he' => ?_
      obtain ⟨id', e'⟩ := e'
      by_cases hsame : id' = id
      · subst hsame
        have heq : e' = e := hd.eq_of_mem he' (Bindings.mem_of_get? hget)
        simp [hnone, Bindings.get?_cons, heq]
      · simp [hsame, Ne.symm hsame, Bindings.get?_cons]
    · -- nothing is stored under the stamp, so that no entry is selected by it either
      have hne (e : Entry) (hget : entries.get? id = some e) : e.generation ≠ g :=
        fun hg => hlive ⟨e, hget, hg⟩
      have hany : (entries.get? id).any (·.generation == g) = false := by
        rw [Option.any_eq_false]
        intro e hget
        simpa using hne e hget
      simp only [Entries.patchLive, hany, Bool.false_eq_true, if_false]
      rw [ih hrest hd, Entries.live_cons_of_ne hne]
      refine congrArg (Prod.mk _) (List.map_congr_left fun e' he' => ?_)
      obtain ⟨id', e'⟩ := e'
      by_cases hsame : id' = id
      · subst hsame
        have hne' : ¬ g = e'.generation := Ne.symm (hne e' (Bindings.get?_of_mem hd he'))
        simp [hnone, Bindings.get?_cons, hne']
      · simp [Ne.symm hsame, Bindings.get?_cons]

end Database

end DocumentStore
