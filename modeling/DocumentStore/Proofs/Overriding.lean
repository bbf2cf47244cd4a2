import DocumentStore.Proofs.Bulk
import DocumentStore.Proofs.Twin

/-!
# Overriding — plain patches one after the other

A plain patch sets every field it names, each to a value that does not depend
on what was there. So two of them in a row do what one does that has the fields
of both: those of the first in their places, with the values of the second where
it has the field, and the other fields of the second behind them
(`Bindings.overriddenBy`). This is the patch that the builder makes when the
fields of the second are added to the first.

The order of the fields carries over since setting a field moves none: a field
set twice is where it was set first (`insert_insert`), and of two fields
either may be set first if one of them is there (`insert_comm`). From documents
the law goes over to views and handles, which select the same documents before
and after a patch.
-/

namespace DocumentStore

universe u

namespace Bindings

variable {α : Type u} {m p q : Bindings α} {k k' : String} {v w : α}

@[simp] theorem insertAll_nil (m : Bindings α) : m.insertAll [] = m := rfl

@[simp] theorem insertAll_cons (m : Bindings α) (k : String) (v : α) (rest : Bindings α) :
    m.insertAll ((k, v) :: rest) = (m.insert k v).insertAll rest := rfl

/-- A map with its values replaced by those another has under the same keys, and
the other keys of that one behind its own. -/
def overriddenBy (p q : Bindings α) : Bindings α :=
  p.map (fun (k, v) => (k, (q.get? k).getD v)) ++ q.filter fun (k, _) => k ∉ keys p

/-- **Of two keys** either may be put first, if one of them is there. -/
theorem insert_comm (hne : k ≠ k') (hmem : k ∈ keys m) (v w : α) :
    (m.insert k' w).insert k v = (m.insert k v).insert k' w := by
  induction m with
  | nil => simp [keys] at hmem
  | cons e rest ih =>
    obtain ⟨key, value⟩ := e
    by_cases hk : key = k
    · subst hk
      simp [insert, hne]
    · have hrest : k ∈ keys rest := by
        simpa [keys, Ne.symm hk] using hmem
      by_cases hk' : key = k'
      · simp [insert, hk', Ne.symm hne]
      · simp [insert, hk, hk', ih hrest]

theorem mem_keys_insert (hmem : k ∈ keys m) (k' : String) (w : α) :
    k ∈ keys (m.insert k' w) := by
  rw [← contains_iff, contains, get?_insert]
  split
  · rfl
  · exact contains_iff.2 hmem

/-- A key that is there is put before others or after them. -/
theorem insert_insertAll (hp : k ∉ keys p) (hmem : k ∈ keys m) (v : α) :
    (m.insertAll p).insert k v = (m.insert k v).insertAll p := by
  induction p generalizing m with
  | nil => rfl
  | cons e rest ih =>
    obtain ⟨k', w⟩ := e
    obtain ⟨hne, hrest⟩ := not_or.1 (mt List.mem_cons.2 hp)
    rw [insertAll_cons, insertAll_cons, ih hrest (mem_keys_insert hmem k' w),
      insert_comm hne hmem]

/-- **What is put last** may be put among the rest, in the place of its key. -/
theorem insertAll_insert (hp : Distinct p) (m : Bindings α) (k : String) (v : α) :
    m.insertAll (p.insert k v) = (m.insertAll p).insert k v := by
  induction p generalizing m with
  | nil => rfl
  | cons e rest ih =>
    obtain ⟨k', w⟩ := e
    obtain ⟨hk', hrest⟩ := List.nodup_cons.1 hp
    by_cases hk : k' = k
    · subst hk
      have hmem : k' ∈ keys (m.insert k' w) := by
        rw [← contains_iff, contains, get?_insert, if_pos rfl]
        rfl
      rw [insert, if_pos rfl, insertAll_cons, insertAll_cons, insert_insertAll hk' hmem,
        insert_insert]
    · rw [insert, if_neg hk, insertAll_cons, insertAll_cons, ih hrest]

/-- **To put one map and then another** is to put the one that they make. -/
theorem insertAll_insertAll (hp : Distinct p) (m q : Bindings α) :
    (m.insertAll p).insertAll q = m.insertAll (p.insertAll q) := by
  induction q generalizing p with
  | nil => rfl
  | cons e rest ih =>
    obtain ⟨k, v⟩ := e
    rw [insertAll_cons, insertAll_cons, ← insertAll_insert hp, ih (hp.insert k v)]

/-- **The map that two make**, entry by entry. -/
theorem insertAll_eq_overriddenBy (hp : Distinct p) (hq : Distinct q) :
    p.insertAll q = p.overriddenBy q := by
  induction q generalizing p with
  | nil => simp [overriddenBy]
  | cons e rest ih =>
    obtain ⟨k, v⟩ := e
    obtain ⟨hk, hrest⟩ := List.nodup_cons.1 hq
    rw [insertAll_cons, ih (hp.insert k v) hrest]
    have hnone : get? rest k = none := get?_eq_none_iff.2 hk
    by_cases hmem : k ∈ keys p
    · have hbehind : ((k, v) :: rest).filter (fun e => decide (e.1 ∉ keys p)) =
          rest.filter fun e => decide (e.1 ∉ keys p) :=
        List.filter_cons_of_neg (by simpa using hmem)
      rw [overriddenBy, overriddenBy, keys_insert_of_mem hmem, hbehind, insert_of_mem hp hmem,
        List.map_map]
      congr 1
      refine List.map_congr_left fun e _ => Prod.ext rfl ?_
      by_cases he : e.1 = k
      · simp [he, hnone, get?_cons]
      · simp [he, get?_cons, Ne.symm he]
    · have hplaces : p.map (fun e => (e.1, (get? rest e.1).getD e.2)) =
          p.map fun e => (e.1, (get? ((k, v) :: rest) e.1).getD e.2) := by
        refine List.map_congr_left fun e he => ?_
        have hne : k ≠ e.1 := fun heq => hmem (heq ▸ mem_keys_iff.2 ⟨e.2, he⟩)
        rw [get?_cons, if_neg hne]
      have hbehind : rest.filter (fun e => decide (e.1 ∉ keys (p ++ [(k, v)]))) =
          rest.filter fun e => decide (e.1 ∉ keys p) := by
        refine List.filter_congr fun e he => ?_
        have hne : e.1 ≠ k := fun heq => hk (heq ▸ mem_keys_iff.2 ⟨e.2, he⟩)
        have hkeys : e.1 ∈ keys (p ++ [(k, v)]) ↔ e.1 ∈ keys p := by simp [keys, hne]
        simp only [hkeys]
      rw [overriddenBy, overriddenBy, insert_of_not_mem hmem, hbehind,
        List.filter_cons_of_pos (by simpa using hmem), List.map_append, hplaces]
      simp [hnone]

/-- **A map overridden by itself** is as it was. -/
theorem overriddenBy_self (hp : Distinct p) : p.overriddenBy p = p := by
  have hplaces : p.map (fun e => (e.1, (p.get? e.1).getD e.2)) = p := by
    refine (List.map_congr_left fun e he => ?_).trans (List.map_id p)
    rw [get?_of_mem hp he]
    rfl
  have hbehind : p.filter (fun e => decide (e.1 ∉ keys p)) = [] := by
    refine List.filter_eq_nil_iff.2 fun e he => ?_
    simpa using mem_keys_iff.2 ⟨e.2, he⟩
  rw [overriddenBy, hbehind, List.append_nil, hplaces]

end Bindings

/-! ## Plain patches -/

namespace Patch

/-- The patch that sets fields. -/
def setting (fields : Bindings Value) : Patch := fields.mapValues .set

theorem ofValue?_object (fields : Bindings Value) :
    ofValue? (.object fields) = .ok (setting fields) := rfl

/-- **A plain patch puts its fields** into a document. -/
theorem apply_setting (fields : Bindings Value) (doc : Document) :
    (setting fields).apply doc = doc.insertAll fields := by
  induction fields generalizing doc with
  | nil => rfl
  | cons field rest ih =>
    obtain ⟨name, v⟩ := field
    have hset : applyField doc name (.set v) = doc.insert name v := Document.change_eq doc name _
    exact (congrArg (apply (setting rest)) hset).trans (ih _)

/-- The patch that sets a field is built from the one that does not. -/
theorem setting_insert (fields : Bindings Value) (name : String) (v : Value) :
    setting (fields.insert name v) = (setting fields).field name (.set v) := by
  induction fields with
  | nil => rfl
  | cons field rest ih =>
    obtain ⟨name', v'⟩ := field
    by_cases h : name' = name
    · simp [setting, field, Bindings.insert, Bindings.mapValues, h]
    · simpa [setting, field, Bindings.insert, Bindings.mapValues, h] using ih

theorem setting_insertAll (p q : Bindings Value) :
    setting (p.insertAll q) = q.foldl (fun patch (name, v) => patch.field name (.set v))
      (setting p) := by
  induction q generalizing p with
  | nil => rfl
  | cons field rest ih =>
    obtain ⟨name, v⟩ := field
    rw [Bindings.insertAll_cons, ih, setting_insert]
    rfl

/-- **Two plain patches** are the one that they make. -/
theorem apply_overriddenBy {p q : Bindings Value} (hp : Bindings.Distinct p)
    (hq : Bindings.Distinct q) (doc : Document) :
    (setting q).apply ((setting p).apply doc) = (setting (p.overriddenBy q)).apply doc := by
  rw [apply_setting, apply_setting, apply_setting, Bindings.insertAll_insertAll hp,
    Bindings.insertAll_eq_overriddenBy hp hq]

end Patch

/-! ## Updates of the same documents -/

section Twice

open Database

variable {db db' : Database} {a b c : Patch}

/-- **An update through a view after another.** -/
theorem View.update_update {v : View} (hv : v.Sound db) (hd : Bindings.Distinct (db.entries v.root))
    (hcompose : ∀ doc, b.apply (a.apply doc) = c.apply doc)
    (hsame : SameData (v.update db a).2 db') :
    (v.update db a).1 = (v.update db c).1 ∧ (v.update db' b).1 = (v.update db c).1 ∧
      SameData (v.update db c).2 (v.update db' b).2 := by
  let patched := (Edit.patch v.root v.admits a).perform v.store db
  have hfits : v.Fits patched :=
    hv.fits.evolves hd (evolves_perform (e := .patch v.root v.admits a) hv.store)
  have hdistinct : Bindings.Distinct (patched.entries v.root) := distinct_perform_patch hd
  -- what is patched is seen as before
  have hcount : (v.visible patched).length = (v.visible db).length := by
    rw [visible_eq_filter hfits hdistinct, visible_eq_filter hv.fits hd, entries_perform_patch,
      if_pos rfl, List.filter_map, List.length_map]
    refine congrArg List.length (List.filter_congr fun e _ => ?_)
    simp only [Function.comp_apply]
    split
    · rfl
    · rfl
  rw [update_eq hv.fits hd] at hsame
  obtain ⟨hn, hdata⟩ := v.update_congr (sameData_touch.trans hsame) b
  rw [update_eq hfits hdistinct] at hn hdata
  rw [perform_patch_twice (fun _ _ => rfl) hcompose] at hdata
  rw [update_eq hv.fits hd, update_eq hv.fits hd]
  exact ⟨rfl, hn.trans hcount, hdata⟩

/-- A handle stands for a document that was patched as before. -/
theorem Handle.selects_patch (h : Handle) (id : String) (e : Entry) :
    h.selects id (e.patch a) = h.selects id e := by
  unfold selects
  cases h.pin with
  | any => rfl
  | generation n => rfl
  | hidden => rfl

/-- **An update through a handle after another**, or none, where the document is
not there. -/
theorem Handle.update_update {h : Handle} (hd : Bindings.Distinct (db.entries h.root))
    (hcompose : ∀ doc, b.apply (a.apply doc) = c.apply doc) :
    (∃ first once, h.update db a = .ok first ∧ h.update db c = .ok once ∧
      ∀ db', SameData first db' → ∃ second, h.update db' b = .ok second ∧ SameData once second) ∨
    ∃ e, ∀ p, h.update db p = .error e := by
  by_cases hpresent : h.isPresent db = true
  · refine .inl ⟨_, _, update_eq hd hpresent a, update_eq hd hpresent c, fun db' hsame => ?_⟩
    let patched := (Edit.patch h.root h.selects a).perform h.store db
    have hdistinct : Bindings.Distinct (patched.entries h.root) := distinct_perform_patch hd
    have hstill : h.isPresent patched = true := by
      obtain ⟨e, he, hpin⟩ := (isPresent_iff hd).1 hpresent
      have hselects : h.selects h.id e = true := by simp [selects, hpin]
      have hpatched : (h.id, e.patch a) ∈ patched.entries h.root := by
        rw [entries_perform_patch, if_pos rfl]
        exact List.mem_map.2 ⟨_, he, by rw [if_pos hselects]⟩
      refine (isPresent_iff hdistinct).2 ⟨e.patch a, hpatched, ?_⟩
      have := (h.selects_patch (a := a) h.id e).trans hselects
      simpa [selects] using this
    have halike := h.update_congr (sameData_touch.trans hsame) b
    rw [update_eq hdistinct hstill, perform_patch_twice h.selects_patch hcompose] at halike
    generalize hupdate : h.update db' b = answer at halike ⊢
    cases halike with
    | ok hdata => exact ⟨_, rfl, hdata⟩
  · refine .inr ⟨.documentNotFound h.id, fun p => ?_⟩
    rw [isPresent, Option.not_isSome_iff_eq_none] at hpresent
    rw [update, hpresent]

end Twice

namespace Session

open Database

/-- What a plain patch is applied to: what a view sees, or a handle stands for. -/
inductive Target where
  | view (name : String)
  | handle (name : String)

/-- The update by a value. -/
def Target.update : Target → Value → Action
  | .view name, value => .onView name (.updateValue value)
  | .handle name, value => .onHandle name (.updateValue value)

variable {x : Session} {v : View} {h : Handle} {name : String}

/-- An update by an object through a view. -/
theorem step_update_view (hview : x.views.get? name = some v) (fields : Bindings Value) :
    x.step ((Target.view name).update (.object fields)) =
      ({ x with database := (v.update x.database (Patch.setting fields)).2 }.release,
        .ok (.number (v.update x.database (Patch.setting fields)).1)) :=
  step_onView hview _

/-- An update by an object through a handle. -/
theorem step_update_handle (hhandle : x.handles.get? name = some h) (fields : Bindings Value) :
    x.step ((Target.handle name).update (.object fields)) =
      match h.update x.database (Patch.setting fields) with
      | .ok db => ({ x with database := db }.release, .ok .done)
      | .error e => (x, .error (.store e)) := by
  rw [Target.update, step_onHandle hhandle, onHandle, Handle.updateValue, Patch.ofValue?_object]
  cases hupdate : h.update x.database (Patch.setting fields) with
  | ok db => simp only [bind, Except.bind, hupdate]; rfl
  | error e => simp only [bind, Except.bind, hupdate]; rfl

/-- **Two updates in a row** and the one that does what both do. -/
theorem step_update_update (hx : x.Sound) (target : Target) {p q r : Bindings Value}
    (hcompose : ∀ doc, (Patch.setting q).apply ((Patch.setting p).apply doc) =
      (Patch.setting r).apply doc) :
    let first := x.step (target.update (.object p))
    let second := first.1.step (target.update (.object q))
    let once := x.step (target.update (.object r))
    first.2 = once.2 ∧ second.2 = once.2 ∧ Twin once.1 second.1 := by
  intro first second once
  -- an update that is refused leaves the session as it was
  have hrefused (refusal : Refusal)
      (h : ∀ fields, x.step (target.update (.object fields)) = (x, .error refusal)) :
      first.2 = once.2 ∧ second.2 = once.2 ∧ Twin once.1 second.1 := by
    simp only [second, first, once, h]
    exact ⟨trivial, trivial, .refl x⟩
  cases target with
  | view name =>
    cases hview : x.views.get? name with
    | none => exact hrefused .noView fun fields => by rw [Target.update, step, hview]
    | some v =>
      let y := { x with database := (v.update x.database (Patch.setting p)).2 }
      have hstill : y.release.views.get? name = some v := hview
      obtain ⟨hcount, hagain, hdata⟩ := View.update_update (hx.view name v hview)
        (hx.database.distinct v.root) hcompose (upkept_release y).sameData
      have hsecond := step_update_view hstill q
      simp only [second, first, once, step_update_view hview, hcount]
      rw [hsecond, hagain]
      exact ⟨trivial, rfl, Twin.release ⟨hdata, rfl, rfl, rfl⟩⟩
  | handle name =>
    cases hhandle : x.handles.get? name with
    | none => exact hrefused .noHandle fun fields => by rw [Target.update, step, hhandle]
    | some h =>
      rcases Handle.update_update (hx.database.distinct h.root) hcompose with
        ⟨db, db', hfirst, honce, hagain⟩ | ⟨e, he⟩
      · let y := { x with database := db }
        have hstill : y.release.handles.get? name = some h := hhandle
        obtain ⟨db'', hsecond, hdata⟩ := hagain _ (upkept_release y).sameData
        have hstep := step_update_handle hstill q
        rw [hsecond] at hstep
        simp only [second, first, once, step_update_handle hhandle, hfirst, honce]
        rw [hstep]
        exact ⟨trivial, rfl, Twin.release ⟨hdata, rfl, rfl, rfl⟩⟩
      · exact hrefused (.store e) fun fields => by rw [step_update_handle hhandle, he]

/-- **Plain patches compose.** On any document, the patch read from one object and
then the one read from another do what the patch does that is read from the first
object overridden by the second, which is also built by adding the fields of the
second to the first patch. At every moment, updates by the two objects through a
view or a handle answer what the one update answers, and leave the same data; and
an update that is repeated answers the same again and leaves the data as it is. -/
theorem plain_patches_compose {p q : Bindings Value} (hp : Bindings.Distinct p)
    (hq : Bindings.Distinct q) :
    (∃ a b c, Patch.ofValue? (.object p) = .ok a ∧ Patch.ofValue? (.object q) = .ok b ∧
      Patch.ofValue? (.object (p.overriddenBy q)) = .ok c ∧
      c = q.foldl (fun patch (name, v) => patch.field name (.set v)) a ∧
      ∀ doc, b.apply (a.apply doc) = c.apply doc) ∧
    ∀ (host : Host) (config : Config) (words : List UInt32) (actions : List Action) (m : Nat)
      (target : Target),
      let x := (start host config words).moment actions m
      let first := x.step (target.update (.object p))
      let second := first.1.step (target.update (.object q))
      let twice := first.1.step (target.update (.object p))
      let once := x.step (target.update (.object (p.overriddenBy q)))
      (first.2 = once.2 ∧ second.2 = once.2 ∧ Twin once.1 second.1) ∧
        twice.2 = first.2 ∧ Twin first.1 twice.1 := by
  have hmade : p.insertAll q = p.overriddenBy q := Bindings.insertAll_eq_overriddenBy hp hq
  refine ⟨⟨_, _, _, Patch.ofValue?_object p, Patch.ofValue?_object q, Patch.ofValue?_object _,
    hmade ▸ Patch.setting_insertAll p q, Patch.apply_overriddenBy hp hq⟩, ?_⟩
  intro host config words actions m target x first second twice once
  have hx : x.Sound := (sound_start host config words).moment actions m
  have hself (doc : Document) : (Patch.setting p).apply ((Patch.setting p).apply doc) =
      (Patch.setting p).apply doc := by
    rw [Patch.apply_overriddenBy hp hp, Bindings.overriddenBy_self hp]
  obtain ⟨-, hanswer, htwin⟩ := step_update_update hx target hself
  exact ⟨step_update_update hx target (Patch.apply_overriddenBy hp hq), hanswer, htwin⟩

/-- A run that stores a document of one field. -/
def storing : List Action :=
  [.onStore .init, .onStore (.createCollection "t" "c"),
    .onView "c" (.add (.object [("_id", .string "d"), ("a", .bool true)]))]

/-- The moments of that run, on a host in memory. -/
def storingAt (m : Nat) : Session := (start (.memory (.new none)) .manual []).moment storing m

/-- A field that both patches have stays where the first of them put it. -/
theorem plain_patches_compose_overlapping :
    let p : Bindings Value := [("b", .null), ("a", .null)]
    let q : Bindings Value := [("c", .bool true), ("b", .bool false)]
    let first := (storingAt 3).step ((Target.view "c").update (.object p))
    let second := first.1.step ((Target.view "c").update (.object q))
    let once := (storingAt 3).step ((Target.view "c").update (.object (p.overriddenBy q)))
    Bindings.Distinct p ∧ Bindings.Distinct q ∧
      p.overriddenBy q = [("b", .bool false), ("a", .null), ("c", .bool true)] ∧
      once.2 = .ok (.number 1) ∧ first.2 = once.2 ∧ second.2 = once.2 ∧
      (once.1.database.entries 0).map (fun e => Bindings.keys e.2.fields) = [["a", "b", "c"]] ∧
      second.1.database.entries 0 = once.1.database.entries 0 := by
  intro p q first second once
  have hp : Bindings.Distinct p := by decide
  have hq : Bindings.Distinct q := by decide
  obtain ⟨⟨hfirst, hsecond, htwin⟩, -⟩ := (plain_patches_compose hp hq).2 (.memory (.new none))
    .manual [] storing 3 (.view "c")
  have honce : once.2 = .ok (.number 1) := rfl
  have hkeys : (once.1.database.entries 0).map (fun e => Bindings.keys e.2.fields) =
      [["a", "b", "c"]] := by decide
  exact ⟨hp, hq, rfl, honce, hfirst, hsecond, hkeys, htwin.data.entries 0⟩

end Session

end DocumentStore
