import DocumentStore.Proofs.Agreement

/-!
# Bulk mutations — all documents of a view at once, or one by one

A view patches or removes all documents it sees in one go. The same can be
done through the handles of these documents, one after the other
(`View.updateEach`, `View.removeEach`). Whatever the order, no handle is
refused, since what is done to one document leaves the others of the view in
it, and the data that is left is the same (`View.updateEach_ok`,
`View.removeEach_eq`): to patch what one condition selects and then what
another selects, of other entries, is to patch what either selects, and so
with discarding (`perform_patch_patch`, `perform_discard_discard`).
-/

namespace DocumentStore

/-! ## Edits one after the other -/

namespace Database

variable {db db' : Database} {s : StoreId} {r : RootId} {selects selects' : String → Entry → Bool}
  {p : Patch}

/-- Data that was replaced by itself. -/
theorem setEntries_entries : db.setEntries r (db.entries r) = db := by
  have hroots : db.roots.set r (db.entries r) = db.roots := by
    refine List.ext_getElem? fun r' => ?_
    rw [List.getElem?_set]
    split
    · next h =>
      subst h
      split
      · next hlt => rw [Database.entries, List.getElem?_eq_getElem hlt, Option.getD_some]
      · next hlt => rw [List.getElem?_eq_none (Nat.not_lt.1 hlt)]
    · rfl
  rw [setEntries, hroots]

/-- Data that is replaced twice. -/
theorem setEntries_apply_apply {f g : Entries → Entries} (hf : f [] = []) :
    (db.setEntries r (f (db.entries r))).setEntries r
        (g ((db.setEntries r (f (db.entries r))).entries r)) =
      db.setEntries r (g (f (db.entries r))) := by
  rw [entries_setEntries_apply hf, if_pos rfl]
  simp only [setEntries, List.set_set]

theorem perform_patch_congr (h : ∀ e ∈ db.entries r, selects e.1 e.2 = selects' e.1 e.2) :
    (Edit.patch r selects p).perform s db = (Edit.patch r selects' p).perform s db := by
  refine congrArg (db.setEntries r) (List.map_congr_left fun e he => ?_)
  rw [h e he]

theorem perform_discard_congr (h : ∀ e ∈ db.entries r, selects e.1 e.2 = selects' e.1 e.2) :
    (Edit.discard r selects).perform s db = (Edit.discard r selects').perform s db := by
  refine congrArg (db.setEntries r) (List.filter_congr fun e he => ?_)
  rw [h e he]

/-- Patching nothing. -/
theorem perform_patch_none : (Edit.patch r (fun _ _ => false) p).perform s db = db := by
  refine (congrArg (db.setEntries r) ?_).trans setEntries_entries
  exact (List.map_congr_left fun e _ => rfl).trans (List.map_id _)

/-- Discarding nothing. -/
theorem perform_discard_none : (Edit.discard r fun _ _ => false).perform s db = db := by
  refine (congrArg (db.setEntries r) ?_).trans setEntries_entries
  exact List.filter_eq_self.2 fun e _ => rfl

/-- **Two patches in a row** are the one that does to every entry what both do. -/
theorem perform_patch_compose {selects'' : String → Entry → Bool} {p' p'' : Patch}
    (h : ∀ id e, (if selects' id (if selects id e then e.patch p else e)
        then (if selects id e then e.patch p else e).patch p'
        else if selects id e then e.patch p else e) = if selects'' id e then e.patch p'' else e) :
    (Edit.patch r selects' p').perform s ((Edit.patch r selects p).perform s db) =
      (Edit.patch r selects'' p'').perform s db := by
  refine (setEntries_apply_apply (f := List.map _) (g := List.map _) rfl).trans ?_
  refine congrArg (db.setEntries r) ?_
  rw [List.map_map]
  exact List.map_congr_left fun e _ => Prod.ext rfl (h e.1 e.2)

/-- **Patching twice**, other entries the second time, is patching both. -/
theorem perform_patch_patch (hapart : ∀ id e, selects id e = true → selects' id e = false)
    (hkept : ∀ id e, selects' id (e.patch p) = selects' id e) :
    (Edit.patch r selects' p).perform s ((Edit.patch r selects p).perform s db) =
      (Edit.patch r (fun id e => selects id e || selects' id e) p).perform s db := by
  refine perform_patch_compose fun id e => ?_
  by_cases hsel : selects id e = true
  · simp [hsel, hkept, hapart id e hsel]
  · simp [hsel]

/-- **Patching the same entries twice**, where one patch does what both do. -/
theorem perform_patch_twice {p' p'' : Patch} (hkept : ∀ id e, selects id (e.patch p) = selects id e)
    (hcompose : ∀ doc, p'.apply (p.apply doc) = p''.apply doc) :
    (Edit.patch r selects p').perform s ((Edit.patch r selects p).perform s db) =
      (Edit.patch r selects p'').perform s db := by
  refine perform_patch_compose fun id e => ?_
  by_cases hsel : selects id e = true
  · rw [if_pos hsel, if_pos ((hkept id e).trans hsel), if_pos hsel]
    exact congrArg (Entry.mk e.generation) (hcompose e.fields)
  · rw [if_neg hsel, if_neg hsel, if_neg hsel]

/-- **Discarding twice** is discarding both. -/
theorem perform_discard_discard :
    (Edit.discard r selects').perform s ((Edit.discard r selects).perform s db) =
      (Edit.discard r (fun id e => selects id e || selects' id e)).perform s db := by
  refine (setEntries_apply_apply (f := List.filter _) (g := List.filter _) rfl).trans ?_
  refine congrArg (db.setEntries r) ?_
  rw [List.filter_filter]
  refine List.filter_congr fun e _ => ?_
  rw [Bool.not_or, Bool.and_comm]

theorem SameData.patch (h : SameData db db') :
    SameData ((Edit.patch r selects p).perform s db) ((Edit.patch r selects p).perform s db') := by
  rw [Edit.perform, Edit.perform, h.entries]
  exact h.setEntries r _

theorem SameData.discard (h : SameData db db') :
    SameData ((Edit.discard r selects).perform s db) ((Edit.discard r selects).perform s db') := by
  rw [Edit.perform, Edit.perform, h.entries]
  exact h.setEntries r _

end Database

namespace View

open Database

variable {v : View} {db db' : Database} {id : String} {ids : List String} {e : Entry} {p : Patch}

/-- Updates documents through their handles, one after the other. -/
def updateEach (v : View) (p : Patch) : List String → Database → Except StoreError Database
  | [], db => .ok db
  | id :: rest, db => (v.handle id).update db p >>= v.updateEach p rest

/-- Removes documents through their handles, one after the other, and says
of each whether it was there. -/
def removeEach (v : View) : List String → Database → List Bool × Database
  | [], db => ([], db)
  | id :: rest, db =>
    let (existed, db) := (v.handle id).remove db
    let (answers, db) := v.removeEach rest db
    (existed :: answers, db)

/-- Of what the view admits, what is under some ids. -/
def admitsOf (v : View) (ids : List String) (id : String) (e : Entry) : Bool :=
  ids.contains id && v.admits id e

theorem admitsOf_nil (v : View) : v.admitsOf [] = fun _ _ => false := rfl

/-- What is under an id, and then under others. -/
theorem admitsOf_cons (v : View) (id : String) (rest : List String) :
    v.admitsOf (id :: rest) =
      fun id' e => (v.handle id).selects id' e || v.admitsOf rest id' e := by
  funext id' e
  rw [selects_handle, admitsOf, admitsOf, List.contains_cons, Bool.and_or_distrib_right]

theorem selects_handle_apart {rest : List String} (hid : id ∉ rest) (id' : String) (e : Entry)
    (h : (v.handle id).selects id' e = true) : v.admitsOf rest id' e = false := by
  rw [selects_handle, Bool.and_eq_true, beq_iff_eq] at h
  rw [admitsOf, h.1, Bool.and_eq_false_iff]
  exact .inl (by simpa using hid)

/-- Of the collection, what the view sees is what it admits. -/
theorem mem_keys_visible_iff (h : v.Fits db) (hd : Bindings.Distinct (db.entries v.root))
    {e : String × Entry} (he : e ∈ db.entries v.root) :
    e.1 ∈ Bindings.keys (v.visible db) ↔ v.admits e.1 e.2 = true := by
  rw [Bindings.mem_keys_iff]
  constructor
  · rintro ⟨e', he'⟩
    obtain ⟨hmem, hadmits⟩ := (mem_visible_iff h hd).1 he'
    rwa [hd.eq_of_mem he hmem]
  · intro hadmits
    exact ⟨e.2, (mem_visible_iff h hd).2 ⟨he, hadmits⟩⟩

/-- **The update of one document** patches it, and leaves every handle of the
view there that was there. -/
theorem update_handle (hd : Bindings.Distinct (db.entries v.root)) (p : Patch)
    (hpresent : (v.handle id).isPresent db = true) :
    ∃ db', (v.handle id).update db p = .ok db' ∧
      SameData ((Edit.patch v.root (v.handle id).selects p).perform v.store db) db' ∧
      Bindings.Distinct (db'.entries v.root) ∧
      ∀ id', (v.handle id').isPresent db = true → (v.handle id').isPresent db' = true := by
  refine ⟨_, Handle.update_eq hd hpresent p, sameData_touch, ?_⟩
  have hentries : ((((Edit.patch v.root (v.handle id).selects p).perform v.store db).touch
      v.store).entries v.root) = (db.entries v.root).map fun e =>
        (e.1, if (v.handle id).selects e.1 e.2 then e.2.patch p else e.2) := by
    rw [sameData_touch.entries, entries_perform_patch, if_pos rfl]
  have hdistinct : Bindings.Distinct ((((Edit.patch v.root (v.handle id).selects p).perform v.store
      db).touch v.store).entries v.root) := by
    rw [sameData_touch.entries]
    exact distinct_perform_patch hd
  refine ⟨hdistinct, fun id' hid' => ?_⟩
  obtain ⟨e, he, hadmits⟩ := (isPresent_handle_iff_admits hd).1 hid'
  -- a patch keeps the generation, by which the view admits what it admits
  refine (isPresent_handle_iff_admits hdistinct).2 ⟨_, hentries ▸ List.mem_map.2
    ⟨(id', e), he, rfl⟩, ?_⟩
  dsimp only
  split
  · exact hadmits
  · exact hadmits

/-- **The removal of one document** discards it, and leaves every other handle
of the view there that was there. -/
theorem remove_handle (hd : Bindings.Distinct (db.entries v.root))
    (hpresent : (v.handle id).isPresent db = true) :
    ∃ db', (v.handle id).remove db = (true, db') ∧
      SameData ((Edit.discard v.root (v.handle id).selects).perform v.store db) db' ∧
      Bindings.Distinct (db'.entries v.root) ∧
      ∀ id', id' ≠ id → (v.handle id').isPresent db = true →
        (v.handle id').isPresent db' = true := by
  refine ⟨_, Handle.remove_eq hd hpresent, sameData_touch, ?_⟩
  have hentries : ((((Edit.discard v.root (v.handle id).selects).perform v.store db).touch
      v.store).entries v.root) =
        (db.entries v.root).filter fun e => !(v.handle id).selects e.1 e.2 := by
    rw [sameData_touch.entries, entries_perform_discard, if_pos rfl]
  have hdistinct : Bindings.Distinct ((((Edit.discard v.root (v.handle id).selects).perform v.store
      db).touch v.store).entries v.root) := by
    rw [hentries]
    exact hd.sublist List.filter_sublist
  refine ⟨hdistinct, fun id' hne hid' => ?_⟩
  obtain ⟨e, he, hadmits⟩ := (isPresent_handle_iff_admits hd).1 hid'
  refine (isPresent_handle_iff_admits hdistinct).2 ⟨e, hentries ▸ List.mem_filter.2 ⟨he, ?_⟩,
    hadmits⟩
  rw [selects_handle, beq_false_of_ne hne]
  rfl

/-- **Updates one by one.** None is refused, and together they patch what the
view admits under the ids. -/
theorem updateEach_ok (p : Patch) (hd : Bindings.Distinct (db.entries v.root)) (hids : ids.Nodup)
    (hseen : ∀ id ∈ ids, (v.handle id).isPresent db = true) :
    ∃ db', v.updateEach p ids db = .ok db' ∧
      SameData ((Edit.patch v.root (v.admitsOf ids) p).perform v.store db) db' := by
  induction ids generalizing db with
  | nil =>
    rw [admitsOf_nil, perform_patch_none]
    exact ⟨db, rfl, SameData.refl db⟩
  | cons id rest ih =>
    obtain ⟨hid, hrest⟩ := List.nodup_cons.1 hids
    obtain ⟨first, hfirst, hsame, hdistinct, hkept⟩ :=
      update_handle hd p (hseen id List.mem_cons_self)
    obtain ⟨db', hdb', hleft⟩ := ih hdistinct hrest fun id' hid' =>
      hkept id' (hseen id' (List.mem_cons_of_mem _ hid'))
    refine ⟨db', by rw [updateEach, hfirst]; exact hdb', ?_⟩
    rw [admitsOf_cons, ← perform_patch_patch (selects_handle_apart hid) fun _ _ => rfl]
    exact hsame.patch.trans hleft

/-- **Removals one by one.** Each finds its document, and together they
discard what the view admits under the ids. -/
theorem removeEach_eq (hd : Bindings.Distinct (db.entries v.root)) (hids : ids.Nodup)
    (hseen : ∀ id ∈ ids, (v.handle id).isPresent db = true) :
    (v.removeEach ids db).1 = ids.map (fun _ => true) ∧
      SameData ((Edit.discard v.root (v.admitsOf ids)).perform v.store db)
        (v.removeEach ids db).2 := by
  induction ids generalizing db with
  | nil =>
    rw [admitsOf_nil, perform_discard_none]
    exact ⟨rfl, SameData.refl db⟩
  | cons id rest ih =>
    obtain ⟨hid, hrest⟩ := List.nodup_cons.1 hids
    obtain ⟨first, hfirst, hsame, hdistinct, hkept⟩ :=
      remove_handle hd (hseen id List.mem_cons_self)
    -- the ids are distinct, so that the first removal takes none of the rest
    obtain ⟨hanswers, hleft⟩ := ih hdistinct hrest fun id' hid' =>
      hkept id' (fun h => hid (h ▸ hid')) (hseen id' (List.mem_cons_of_mem _ hid'))
    rw [removeEach, hfirst]
    refine ⟨congrArg (true :: ·) hanswers, ?_⟩
    rw [admitsOf_cons, ← perform_discard_discard]
    exact hsame.discard.trans hleft

/-- Of the collection, what the view admits under the ids it sees is all that
it admits. -/
theorem admitsOf_visible (h : v.Fits db) (hd : Bindings.Distinct (db.entries v.root))
    (hids : ids.Perm (Bindings.keys (v.visible db))) {e : String × Entry}
    (he : e ∈ db.entries v.root) : v.admits e.1 e.2 = v.admitsOf ids e.1 e.2 := by
  rw [admitsOf, Bool.eq_iff_iff, Bool.and_eq_true, List.contains_iff_mem, hids.mem_iff,
    mem_keys_visible_iff h hd he, and_self]

/-- **An update of a view** is the updates of what it sees, one by one. -/
theorem update_one_by_one (h : v.Fits db) (hd : Bindings.Distinct (db.entries v.root)) (p : Patch)
    (hids : ids.Perm (Bindings.keys (v.visible db))) :
    ∃ db', v.updateEach p ids db = .ok db' ∧ SameData (v.update db p).2 db' := by
  have hnodup : ids.Nodup := hids.nodup_iff.2 (distinct_visible h hd)
  obtain ⟨db', hdb', hleft⟩ := updateEach_ok p hd hnodup fun id hid =>
    (isPresent_handle_iff h hd).2 (hids.mem_iff.1 hid)
  refine ⟨db', hdb', ?_⟩
  rw [update_eq h hd, perform_patch_congr fun e he => admitsOf_visible h hd hids he]
  exact sameData_touch.symm.trans hleft

/-- **A removal of a view** is the removals of what it sees, one by one. -/
theorem remove_one_by_one (h : v.Fits db) (hd : Bindings.Distinct (db.entries v.root))
    (hids : ids.Perm (Bindings.keys (v.visible db))) :
    (v.removeEach ids db).1 = ids.map (fun _ => true) ∧
      SameData (v.remove db).2 (v.removeEach ids db).2 := by
  have hnodup : ids.Nodup := hids.nodup_iff.2 (distinct_visible h hd)
  obtain ⟨hanswers, hleft⟩ := removeEach_eq hd hnodup fun id hid =>
    (isPresent_handle_iff h hd).2 (hids.mem_iff.1 hid)
  refine ⟨hanswers, ?_⟩
  rw [remove_eq h hd, perform_discard_congr fun e he => admitsOf_visible h hd hids he]
  exact sameData_touch.symm.trans hleft

/-- **An update patches what the view sees**, and nothing else of any
collection. -/
theorem entries_update_visible (h : v.Fits db) (hd : Bindings.Distinct (db.entries v.root))
    (p : Patch) (r : RootId) : (v.update db p).2.entries r = (db.entries r).map fun e =>
      (e.1, if r = v.root ∧ e.1 ∈ Bindings.keys (v.visible db) then e.2.patch p else e.2) := by
  rw [update_eq h hd, sameData_touch.entries, entries_perform_patch]
  split
  · next hr =>
    subst hr
    refine List.map_congr_left fun e he => Prod.ext rfl ?_
    simp only [true_and, mem_keys_visible_iff h hd he]
  · next hr =>
    simp only [Ne.symm hr, false_and, if_false]
    exact (List.map_id _).symm

/-- **A removal takes out what the view sees**, and nothing else of any
collection. -/
theorem entries_remove_visible (h : v.Fits db) (hd : Bindings.Distinct (db.entries v.root))
    (r : RootId) : (v.remove db).2.entries r = (db.entries r).filter fun e =>
      ¬ (r = v.root ∧ e.1 ∈ Bindings.keys (v.visible db)) := by
  rw [remove_eq h hd, sameData_touch.entries, entries_perform_discard]
  split
  · next hr =>
    subst hr
    refine List.filter_congr fun e he => ?_
    simp [mem_keys_visible_iff h hd he]
  · next hr =>
    simp only [Ne.symm hr, false_and, not_false_eq_true, decide_true]
    exact (List.filter_eq_self.2 fun _ _ => rfl).symm

/-- After its removal a view sees nothing. -/
theorem count_remove (h : v.Sound db) (hdb : db.Sound) : v.count (v.remove db).2 = 0 := by
  have hd := hdb.distinct v.root
  have hevolves : db.Evolves (v.remove db).2 := by
    rw [remove_eq h.fits hd]
    exact (evolves_perform (e := .discard v.root v.admits) h.store).trans
      (.of_sameData sameData_touch)
  have hentries := entries_remove h.fits hd
  have hdistinct : Bindings.Distinct ((v.remove db).2.entries v.root) := by
    rw [hentries]
    exact hd.sublist List.filter_sublist
  -- what is left is what the view does not admit
  rw [count, visible_eq_filter (h.fits.evolves hd hevolves) hdistinct, hentries, List.filter_filter,
    List.length_eq_zero_iff, List.filter_eq_nil_iff]
  intro e _
  simp

end View

namespace Session

open Database

/-- **Bulk mutations are mutations one by one.** At every moment, an update or
a removal through a view that was ever held answers with how many documents
the view sees, patches or takes out those and nothing else of any collection,
and leaves exactly the data that the same leaves when it is done through the
handles of these documents, in any order, none of which is refused or finds
nothing. After a removal the view sees nothing. -/
theorem bulk_mutations_one_by_one (host : Host) (config : Config) (words : List UInt32)
    (actions : List Action) (n m : Nat) (view : String) (v : View)
    (hview : ((start host config words).moment actions n).views.get? view = some v)
    (hm : n ≤ m) :
    let db := ((start host config words).moment actions m).database
    let ids := Bindings.keys (v.visible db)
    (∀ p, (v.update db p).1 = v.count db ∧
      (∀ r, (v.update db p).2.entries r = (db.entries r).map fun e =>
        (e.1, if r = v.root ∧ e.1 ∈ ids then e.2.patch p else e.2)) ∧
      ∀ order, order.Perm ids →
        ∃ db', v.updateEach p order db = .ok db' ∧ SameData (v.update db p).2 db') ∧
    (v.remove db).1 = v.count db ∧
    v.count (v.remove db).2 = 0 ∧
    (∀ r, (v.remove db).2.entries r =
      (db.entries r).filter fun e => ¬ (r = v.root ∧ e.1 ∈ ids)) ∧
    ∀ order, order.Perm ids → (v.removeEach order db).1 = order.map (fun _ => true) ∧
      SameData (v.remove db).2 (v.removeEach order db).2 := by
  intro db ids
  have hx : (start host config words).Sound := sound_start host config words
  have hdb : db.Sound := (hx.moment actions m).database
  have hv : v.Sound db := hx.view_moment hview hm
  have hd := hdb.distinct v.root
  refine ⟨fun p => ⟨?_, fun r => View.entries_update_visible hv.fits hd p r,
    fun order horder => View.update_one_by_one hv.fits hd p horder⟩, ?_, View.count_remove hv hdb,
    fun r => View.entries_remove_visible hv.fits hd r,
    fun order horder => View.remove_one_by_one hv.fits hd horder⟩
  · rw [View.update_eq hv.fits hd, View.count]
  · rw [View.remove_eq hv.fits hd, View.count]

/-- A run that filters two documents, removes the first and stores a third. -/
def sweeping : List Action :=
  [.onStore .init, .onStore (.createCollection "t" "c"),
    .onView "c" (.add (.object [("_id", .string "a")])),
    .onView "c" (.add (.object [("_id", .string "b")])), .onView "c" (.filter .empty "f"),
    .onView "f" (.handle "a" "h"), .onHandle "h" .remove,
    .onView "c" (.add (.object [("_id", .string "d")]))]

/-- The moments of that run, on a host in memory. -/
def sweepingAt (m : Nat) : Session := (start (.memory (.new none)) .manual []).moment sweeping m

/-- The filtered view sees the second document alone then, and removes it as
its handle does. -/
theorem bulk_mutations_one_by_one_sweeping :
    (sweepingAt 5).views.get? "f" = some ⟨0, 0, "t", some [("a", 1), ("b", 2)], .default⟩ ∧
      Bindings.keys ((sweepingAt 8).database.entries 0) = ["b", "d"] ∧
      let v : View := ⟨0, 0, "t", some [("a", 1), ("b", 2)], .default⟩
      let db := (sweepingAt 8).database
      (v.remove db).1 = v.count db ∧ v.count db = 1 ∧ v.count (v.remove db).2 = 0 ∧
        (v.removeEach ["b"] db).1 = [true] ∧
        SameData (v.remove db).2 (v.removeEach ["b"] db).2 := by
  have hview : (sweepingAt 5).views.get? "f" =
      some ⟨0, 0, "t", some [("a", 1), ("b", 2)], .default⟩ := by cbv
  obtain ⟨-, hcount, hnone, -, heach⟩ := bulk_mutations_one_by_one (.memory (.new none)) .manual []
    sweeping 5 8 "f" _ hview (by decide)
  have hids : Bindings.keys ((View.mk 0 0 "t" (some [("a", 1), ("b", 2)]) .default).visible
      (sweepingAt 8).database) = ["b"] := by decide
  obtain ⟨hanswers, hsame⟩ := heach ["b"] (.of_eq hids.symm)
  exact ⟨hview, by decide, hcount, by decide, hnone, hanswers, hsame⟩

end Session

end DocumentStore
