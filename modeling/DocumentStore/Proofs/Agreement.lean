import DocumentStore.Proofs.Insertion

/-!
# Agreement — a handle and the view it is of

A handle is made of an id and of what the view has for the id at that time,
and looks the id up on its own from then on. It always finds what the view
finds (`View.entry?_handle`), so that all that is read and done through it
agrees with the view: it is there just if the view sees its id, it reads the
document that the view reads, and it patches and removes that document or
nothing (`View.isPresent_handle_iff`, `View.filter_get_unpaged`,
`View.selects_handle`).

What a filtered view admits was stored before the filter
(`View.generation_lt_of_admits`). So no document that is stored later under
the id of a handle is ever found by it, whereas a handle of a whole
collection finds whatever has its id.
-/

namespace DocumentStore

namespace Bindings

variable {α : Type} {m : Bindings α} {k : String}

/-- Look-up in a part of a map. -/
theorem get?_filter (hd : Distinct m) (p : String → α → Bool) (k : String) :
    get? (m.filter fun e => p e.1 e.2) k = (get? m k).filter (p k) := by
  refine Option.ext fun v => ?_
  rw [get?_eq_some_iff (hd.sublist List.filter_sublist), List.mem_filter,
    Option.filter_eq_some_iff, get?_eq_some_iff hd]

/-- With distinct keys, the part of a map under one key is what is looked up. -/
theorem filter_key_eq (hd : Distinct m) (k : String) :
    (m.filter fun e => e.1 == k) = ((get? m k).map (k, ·)).toList := by
  induction m with
  | nil => rfl
  | cons e rest ih =>
    obtain ⟨k', v⟩ := e
    obtain ⟨hk', hrest⟩ := List.nodup_cons.1 hd
    by_cases hk : k' = k
    · subst hk
      have hnone : get? rest k' = none := get?_eq_none_iff.2 hk'
      rw [List.filter_cons_of_pos (by simp), ih hrest, hnone, get?_cons, if_pos rfl]
      rfl
    · rw [List.filter_cons_of_neg (by simpa using hk), ih hrest, get?_cons, if_neg hk]

end Bindings

/-- What is read of a field of a document that is read out is what a filter tests. -/
theorem Document.member?_withId (doc : Document) (id field : String) :
    (doc.withId id).member? field = Filter.fieldOf id doc field := by
  rw [Document.withId, Value.member?, Bindings.get?_insert, Filter.fieldOf]
  exact if_congr eq_comm rfl rfl

/-- A document that is read out has an id. -/
def Value.hasId (id : String) (document : Value) : Bool :=
  match document.member? idField with
  | some (.string id') => id' == id
  | _ => false

theorem Document.hasId_withId (doc : Document) (id id' : String) :
    (doc.withId id).hasId id' = (id == id') := by
  rw [Value.hasId, member?_withId, Filter.fieldOf, if_pos rfl]

namespace View

variable {v : View} {db : Database} {id id' : String} {e : Entry}

/-- The same view without a page. -/
def unpaged (v : View) : View :=
  { v with options := { v.options with limit := none, skip := none } }

/-- A handle may find what its view admits. -/
theorem admits_handle (v : View) (id : String) (e : Entry) :
    (v.handle id).pin.admits e = v.admits id e := by
  unfold handle admits
  cases v.scope with
  | none => rfl
  | some scope =>
    dsimp only
    cases hget : scope.get? id with
    | none => rfl
    | some n => exact BEq.comm

/-- **A handle selects** what its view admits under its id. -/
theorem selects_handle (v : View) (id id' : String) (e : Entry) :
    (v.handle id).selects id' e = (id' == id && v.admits id' e) := by
  have hid : (v.handle id).id = id := rfl
  rw [Handle.selects, admits_handle, hid]
  by_cases h : id' = id
  · rw [h]
  · rw [beq_false_of_ne h, Bool.false_and, Bool.false_and]

/-- A handle finds an entry just if its view admits one under its id. -/
theorem isPresent_handle_iff_admits (hd : Bindings.Distinct (db.entries v.root)) :
    (v.handle id).isPresent db = true ↔
      ∃ e, (id, e) ∈ db.entries v.root ∧ v.admits id e = true := by
  refine (Handle.isPresent_iff hd).trans (exists_congr fun e => and_congr_right fun _ => ?_)
  rw [admits_handle]

/-- **A handle finds what its view sees** under its id. -/
theorem entry?_handle (h : v.Fits db) (hd : Bindings.Distinct (db.entries v.root)) (id : String) :
    Handle.entry? (v.handle id) db = (v.visible db).get? id := by
  have hadmits : (v.handle id).pin.admits = v.admits id := funext (admits_handle v id)
  rw [visible_eq_filter h hd, Bindings.get?_filter hd, Handle.entry?, hadmits]
  rfl

theorem distinct_visible (h : v.Fits db) (hd : Bindings.Distinct (db.entries v.root)) :
    Bindings.Distinct (v.visible db) := by
  rw [visible_eq_filter h hd]
  exact hd.sublist List.filter_sublist

/-- **A handle is there** just if its view sees its id. -/
theorem isPresent_handle_iff (h : v.Fits db) (hd : Bindings.Distinct (db.entries v.root)) :
    (v.handle id).isPresent db = true ↔ id ∈ Bindings.keys (v.visible db) := by
  rw [Handle.isPresent, entry?_handle h hd]
  exact Bindings.contains_iff

/-- What is read of a view without a page: the documents it sees, in some
order. -/
theorem get_unpaged_perm (v : View) (db : Database) :
    (v.unpaged.get db).Perm ((v.visible db).map fun e => e.2.fields.withId e.1) := by
  have hpage {α : Type} (docs : List α) : v.unpaged.options.page docs = docs := rfl
  rw [View.get, hpage, hpage]
  split
  · exact .refl _
  · unfold SortKeys.sort
    split
    · exact .refl _
    · exact List.mergeSort_perm ..

/-- **A handle reads what its view reads** under its id. -/
theorem filter_get_unpaged (h : v.Fits db) (hd : Bindings.Distinct (db.entries v.root))
    (id : String) :
    (v.unpaged.get db).filter (Value.hasId id) = ((v.handle id).get? db).toList := by
  have hseen : ((v.visible db).map fun e => e.2.fields.withId e.1).filter (Value.hasId id) =
      ((v.handle id).get? db).toList := by
    have hid : (v.handle id).id = id := rfl
    rw [List.filter_map]
    have hkey : (Value.hasId id ∘ fun e : String × Entry => e.2.fields.withId e.1) =
        fun e => e.1 == id := funext fun e => Document.hasId_withId _ _ _
    rw [hkey, Bindings.filter_key_eq (distinct_visible h hd), Handle.get?, entry?_handle h hd, hid]
    cases Bindings.get? (v.visible db) id <;> rfl
  -- how the documents are sorted does not matter, since one at most has the id
  have hperm := (get_unpaged_perm v db).filter (Value.hasId id)
  rw [hseen] at hperm
  cases hget : (v.handle id).get? db with
  | none =>
    rw [hget] at hperm
    exact hperm.eq_nil
  | some document =>
    rw [hget] at hperm
    exact List.perm_singleton.1 hperm

/-- **What a filtered view admits was stored before.** -/
theorem generation_lt_of_admits (h : v.Fits db) (hscope : v.scope.isSome)
    (hadmits : v.admits id e = true) : e.generation < db.generation := by
  obtain ⟨scope, hscope⟩ := Option.isSome_iff_exists.1 hscope
  simp only [admits, hscope, beq_iff_eq] at hadmits
  exact (h scope hscope).issued (id, e.generation) (Bindings.mem_of_get? hadmits)

end View

namespace Handle

variable {h : Handle} {v : View} {db : Database}

/-- A handle finds nothing, and what is done through it is done to nothing. -/
structure Misses (h : Handle) (db : Database) : Prop where
  isPresent : h.isPresent db = false
  get : h.get? db = none
  update : ∀ p, h.update db p = .error (.documentNotFound h.id)
  remove : h.remove db = (false, db)

/-- A handle agrees with a view: on whether its document is there, on what
the document is, and on what can be done to it. -/
structure Agrees (h : Handle) (v : View) (db : Database) : Prop where
  isPresent : h.isPresent db = true ↔ h.id ∈ Bindings.keys (v.visible db)
  get : (v.unpaged.get db).filter (Value.hasId h.id) = (h.get? db).toList
  get_isSome : (h.get? db).isSome = h.isPresent db
  update : ∀ p, (∃ db', h.update db p = .ok db') ↔ h.isPresent db = true
  remove : (h.remove db).1 = h.isPresent db
  misses : h.isPresent db = false → h.Misses db

theorem misses_of_isPresent (hp : h.isPresent db = false) : h.Misses db := by
  have hentry : h.entry? db = none := Option.isNone_iff_eq_none.1 (Option.isSome_eq_false_iff.1 hp)
  refine ⟨hp, ?_, fun p => ?_, ?_⟩
  · rw [get?, hentry, Option.map_none]
  · rw [update, hentry]
  · rw [remove, hp, if_neg Bool.false_ne_true]

theorem remove_fst (h : Handle) (db : Database) : (h.remove db).1 = h.isPresent db := by
  cases hp : h.isPresent db with
  | true => rw [remove, hp, if_pos rfl]
  | false => rw [(misses_of_isPresent hp).remove]

/-- **A handle agrees with its view** as long as the scope of the view is in
order. -/
theorem agrees_of_fits (hfits : v.Fits db) (hd : Bindings.Distinct (db.entries v.root))
    (id : String) : (v.handle id).Agrees v db where
  isPresent := View.isPresent_handle_iff hfits hd
  get := View.filter_get_unpaged hfits hd id
  get_isSome := Option.isSome_map
  update p := by
    constructor
    · rintro ⟨db', hdb'⟩
      exact (update_ok hd hdb').1
    · intro hp
      exact ⟨_, update_eq hd hp p⟩
  remove := remove_fst _ db
  misses := misses_of_isPresent

end Handle

namespace Session

variable {x : Session} {actions : List Action} {n m : Nat} {view name : String} {v : View}
  {h : Handle}

/-- A view that was held is sound at every later moment. -/
theorem Sound.view_moment (hx : x.Sound)
    (hview : (x.moment actions n).views.get? view = some v) (hm : n ≤ m) :
    v.Sound (x.moment actions m).database :=
  ((hx.moment actions n).view view v hview).evolves (hx.moment actions n).database
    (evolves_moment hx hm)

/-- **Every handle that is held** is one of a view that was held before. -/
theorem exists_view_of_handle (hx : x.Sound) (hhandles : x.handles = [])
    (hget : (x.moment actions m).handles.get? name = some h) :
    ∃ n view v, n < m ∧ (x.moment actions n).views.get? view = some v ∧ h = v.handle h.id := by
  induction m with
  | zero => rw [moment_zero, hhandles] at hget; cases hget
  | succ m ih =>
    have hbefore (hget : (x.moment actions m).handles.get? name = some h) :
        ∃ n view v, n < m + 1 ∧ (x.moment actions n).views.get? view = some v ∧
          h = v.handle h.id := by
      obtain ⟨n, view, v, hn, hview, heq⟩ := ih hget
      exact ⟨n, view, v, Nat.lt_succ_of_lt hn, hview, heq⟩
    cases ha : actions[m]? with
    | none =>
      rw [moment_succ_of_none ha] at hget
      exact hbefore hget
    | some a =>
      rw [moment_succ ha] at hget
      rcases handle_step (hx.moment actions m) hget with hold | ⟨view, v, id, hview, rfl⟩
      · exact hbefore hold
      · exact ⟨m, view, v, Nat.lt_succ_self m, hview, rfl⟩

/-- **A handle of a filtered view misses what is stored later** under its id. -/
theorem misses_of_present (hx : x.Sound)
    (hview : (x.moment actions n).views.get? view = some v) (hscope : v.scope.isSome)
    {id : String} {i : Nat} (hi : n ≤ i) (hp : Present x actions v.root id i m) :
    (v.handle id).Misses (x.moment actions m).database := by
  have hd := (hx.moment actions m).database.distinct v.root
  obtain ⟨-, e, -, he, -, hgeneration⟩ := hp.exists_mem hx
  refine Handle.misses_of_isPresent (Bool.eq_false_iff.2 fun hpresent => ?_)
  obtain ⟨e', he', hadmits⟩ := (View.isPresent_handle_iff_admits hd).1 hpresent
  obtain rfl : e' = e := hd.eq_of_mem he' he
  -- the view admits generations from before it was made only, and the entry has a later one
  have hbefore := View.generation_lt_of_admits ((hx.moment actions n).view view v hview).fits
    hscope hadmits
  have hbetween : (x.moment actions n).database.generation ≤
      (x.moment actions i).database.generation := (evolves_moment hx hi).generation
  exact absurd (Nat.lt_of_lt_of_le hbefore hbetween) (Nat.not_lt.2 hgeneration)

/-- A handle of a whole collection finds whatever has its id. -/
theorem isPresent_iff_present (hx : x.Sound) (h₀ : x.database.entries v.root = [])
    (hscope : v.scope = none) {id : String} :
    (v.handle id).isPresent (x.moment actions m).database = true ↔
      ∃ i, Present x actions v.root id i m := by
  have hd := (hx.moment actions m).database.distinct v.root
  rw [View.isPresent_handle_iff_admits hd]
  constructor
  · rintro ⟨e, he, -⟩
    exact exists_present hx h₀ he
  · rintro ⟨i, hi⟩
    obtain ⟨-, e, -, he, -⟩ := hi.exists_mem hx
    exact ⟨e, he, by rw [View.admits, hscope]⟩

/-- **A handle agrees with its view for good.** Every handle that is held is
one of a view that was held before. A handle of a view, which is the same
whenever it is taken, is there at every moment just if the view sees its id
then; it reads the one document of the id that the view reads without a page;
and an update through it is refused and a removal finds nothing just if it is
not there. A handle of a filtered view misses every document that is stored
under its id after the view was held; a handle of a whole collection is there
whenever any document is under its id. -/
theorem handle_agrees_with_view (host : Host) (config : Config) (words : List UInt32)
    (actions : List Action) :
    let x := start host config words
    (∀ m name h, (x.moment actions m).handles.get? name = some h →
      ∃ n view v, n < m ∧ (x.moment actions n).views.get? view = some v ∧ h = v.handle h.id) ∧
    ∀ n view v, (x.moment actions n).views.get? view = some v → ∀ m, n ≤ m → ∀ id,
      (v.handle id).Agrees v (x.moment actions m).database ∧
      (v.scope.isSome → ∀ i, n ≤ i → Present x actions v.root id i m →
        (v.handle id).Misses (x.moment actions m).database) ∧
      (v.scope = none → ((v.handle id).isPresent (x.moment actions m).database = true ↔
        ∃ i, Present x actions v.root id i m)) := by
  intro x
  have hx : x.Sound := sound_start host config words
  refine ⟨fun m name h hget => exists_view_of_handle hx rfl hget,
    fun n view v hview m hm id => ⟨?_, ?_, ?_⟩⟩
  · exact Handle.agrees_of_fits (hx.view_moment hview hm).fits
      ((hx.moment actions m).database.distinct v.root) id
  · intro hscope i hi hp
    exact misses_of_present hx hview hscope hi hp
  · intro hscope
    exact isPresent_iff_present hx rfl hscope

/-- A run that takes two handles of a document, of the collection and of a
part of it, removes the document and stores another under its id. -/
def readding : List Action :=
  [.onStore .init, .onStore (.createCollection "t" "c"),
    .onView "c" (.add (.object [("_id", .string "a")])), .onView "c" (.filter .empty "f"),
    .onView "f" (.handle "a" "g"), .onView "c" (.handle "a" "h"), .onHandle "h" .remove,
    .onView "c" (.add (.object [("_id", .string "a")]))]

/-- The moments of that run, on a host in memory. -/
def readdingAt (m : Nat) : Session := (start (.memory (.new none)) .manual []).moment readding m

/-- The handle of the part misses the second document; that of the collection
has found it. -/
theorem handle_agrees_with_view_readding :
    (readdingAt 4).views.get? "f" = some ⟨0, 0, "t", some [("a", 1)], .default⟩ ∧
      (readdingAt 8).handles.get? "g" = some ⟨0, 0, "a", .generation 1⟩ ∧
      (Handle.mk 0 0 "a" (.generation 1)).Misses (readdingAt 8).database ∧
      (readdingAt 8).handles.get? "h" = some ⟨0, 0, "a", .any⟩ ∧
      (Handle.mk 0 0 "a" .any).Agrees (.whole 0 0 "t") (readdingAt 8).database ∧
      (Handle.mk 0 0 "a" .any).isPresent (readdingAt 8).database = true := by
  have hmain := (handle_agrees_with_view (.memory (.new none)) .manual [] readding).2
  have hpart : (readdingAt 4).views.get? "f" = some ⟨0, 0, "t", some [("a", 1)], .default⟩ := by
    cbv
  have hwhole : (readdingAt 2).views.get? "c" = some (.whole 0 0 "t") := by cbv
  have hview : (readdingAt 7).views.get? "c" = some (.whole 0 0 "t") := by cbv
  have hadded : (readdingAt 7).step (.onView "c" (.add (.object [("_id", .string "a")]))) =
      (readdingAt 8, .ok (.id "a")) := by cbv
  have hpresent : Present (start (.memory (.new none)) .manual []) readding 0 "a" 7 8 :=
    ⟨by decide, ⟨_, rfl, .add hview (congrArg Prod.snd hadded)⟩, fun j a hj hjt => by omega⟩
  have hmisses := (hmain 4 "f" _ hpart 8 (by decide) "a").2.1 rfl 7 (by decide) hpresent
  have hagrees := (hmain 2 "c" _ hwhole 8 (by decide) "a").1
  exact ⟨hpart, by cbv, hmisses, by cbv, hagrees, by decide⟩

end Session

end DocumentStore
