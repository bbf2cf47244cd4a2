import DocumentStore.Proofs.Insertion

/-!
# Identity — what a chain of filters keeps seeing

A view may be filtered, and the view that gives filtered again, with any
number of operations between (`Chained`); all views that a session holds
came about like this (`chained_of_get?`). What it sees from then on is
decided by insertions and not by ids: those that were there at every filter
of the chain, passed it as they were then, and have not been removed since
(`Chosen`, `visible_chained`). It sees them as they are now and in the
order the collection has now, and everything else it does, counting,
reading and the two bulk mutations, is done with just these.
-/

namespace DocumentStore

namespace Session

open Database

variable {x : Session} {actions : List Action} {v : View} {chain : List (Nat × Filter)} {m t : Nat}
  {r : RootId} {id : String} {e : Entry}

/-- A view made from that of a whole collection by filters, each at a moment
of a run and not before the last; between them its options may have been
set. -/
inductive Chained (x : Session) (actions : List Action) : View → List (Nat × Filter) → Prop
  | whole (s : StoreId) (r : RootId) (name : String) : Chained x actions (.whole s r name) []
  | options {v : View} {chain : List (Nat × Filter)} (h : Chained x actions v chain)
      (options : Options) : Chained x actions { v with options } chain
  | filter {v : View} {chain : List (Nat × Filter)} {t : Nat} (h : Chained x actions v chain)
      (ht : ∀ p ∈ chain, p.1 ≤ t) (f : Filter) :
      Chained x actions (v.filter (x.moment actions t).database f) (chain ++ [(t, f)])

/-- An insertion is present, was present at each filter of a chain, and
passed it with what the document was then. -/
def Chosen (x : Session) (actions : List Action) (r : RootId) (chain : List (Nat × Filter))
    (m : Nat) (id : String) (i : Nat) : Prop :=
  Present x actions r id i m ∧ ∀ p ∈ chain, Present x actions r id i p.1 ∧
    ∃ e, (id, e) ∈ (x.moment actions p.1).database.entries r ∧ p.2.test id e.fields = true

/-- The scope of a chained view is in order, from its last filter on. -/
theorem Chained.fits (hx : x.Sound) (h : Chained x actions v chain) (hm : ∀ p ∈ chain, p.1 ≤ m) :
    v.Fits (x.moment actions m).database := by
  induction h generalizing m with
  | whole s r name => intro scope hscope; cases hscope
  | options h options ih => exact ih hm
  | @filter v chain t h ht f ih =>
    have hdb := (hx.moment actions t).database
    have htm : t ≤ m := hm (t, f) (List.mem_append_right _ List.mem_cons_self)
    exact (View.fits_filter (ih ht) hdb f).evolves (hdb.distinct _) (evolves_moment hx htm)

/-- **What a chained view admits**: what at every filter was stored under the
same id and generation, and passed. -/
theorem Chained.admits_iff_stored (hx : x.Sound) (h : Chained x actions v chain) :
    v.admits id e = true ↔
      ∀ p ∈ chain, ∃ e', (id, e') ∈ (x.moment actions p.1).database.entries v.root ∧
        e'.generation = e.generation ∧ p.2.test id e'.fields = true := by
  induction h generalizing e with
  | whole s r name => simp [View.admits, View.whole]
  | options h options ih => exact ih
  | @filter v chain t h ht f ih =>
    rw [View.admits_filter_iff (h.fits hx ht) (hx.moment actions t).database]
    constructor
    · rintro ⟨e', he', had, hgen, htest⟩ p hp
      rcases List.mem_append.1 hp with hp | hp
      · exact hgen ▸ ih.1 had p hp
      · rw [List.mem_singleton.1 hp]
        exact ⟨e', he', hgen, htest⟩
    · intro hall
      obtain ⟨e', he', hgen, htest⟩ := hall (t, f) (List.mem_append_right _ List.mem_cons_self)
      refine ⟨e', he', ih.2 fun p hp => ?_, hgen, htest⟩
      rw [hgen]
      exact hall p (List.mem_append_left _ hp)

/-- **What a chained view admits are the chosen insertions.** -/
theorem Chained.admits_iff (hx : x.Sound) (h₀ : x.database.entries v.root = [])
    (h : Chained x actions v chain)
    (he : (id, e) ∈ (x.moment actions m).database.entries v.root) :
    v.admits id e = true ↔ ∃ i, Chosen x actions v.root chain m id i := by
  obtain ⟨i, hi⟩ := exists_present hx h₀ he
  rw [h.admits_iff_stored hx]
  constructor
  · intro hall
    refine ⟨i, hi, fun p hp => ?_⟩
    obtain ⟨e', he', hgen, htest⟩ := hall p hp
    -- one generation is one insertion, and at this moment only one is present
    obtain ⟨i', hp', hm'⟩ := (generation_eq_iff hx h₀ he' he).1 hgen
    obtain rfl := hi.unique hx hm'
    exact ⟨hp', e', he', htest⟩
  · rintro ⟨i', hi', hchain⟩ p hp
    obtain ⟨hpresent, e', he', htest⟩ := hchain p hp
    exact ⟨e', he', hpresent.generation_eq hx hi' he' he, htest⟩

/-- **Every view a session holds is chained.** -/
theorem chained_of_get? (hx : x.Sound) (hviews : x.views = []) {name : String}
    (hget : (x.moment actions t).views.get? name = some v) :
    ∃ chain, Chained x actions v chain ∧ ∀ p ∈ chain, p.1 ≤ t := by
  induction t generalizing name v with
  | zero => rw [moment_zero, hviews] at hget; cases hget
  | succ t ih =>
    have hlater {chain : List (Nat × Filter)} (hle : ∀ p ∈ chain, p.1 ≤ t) :
        ∀ p ∈ chain, p.1 ≤ t + 1 := fun p hp => Nat.le_succ_of_le (hle p hp)
    cases ha : actions[t]? with
    | none =>
      rw [moment_succ_of_none ha] at hget
      obtain ⟨chain, hchain, hle⟩ := ih hget
      exact ⟨chain, hchain, hlater hle⟩
    | some a =>
      rw [moment_succ ha] at hget
      cases arises_step (hx.moment actions t) hget with
      | kept hold =>
        obtain ⟨chain, hchain, hle⟩ := ih hold
        exact ⟨chain, hchain, hlater hle⟩
      | whole name hs hr => exact ⟨[], .whole _ _ name, fun p hp => by simp at hp⟩
      | options hold options =>
        obtain ⟨chain, hchain, hle⟩ := ih hold
        exact ⟨chain, hchain.options options, hlater hle⟩
      | filter hold f =>
        obtain ⟨chain, hchain, hle⟩ := ih hold
        refine ⟨chain ++ [(t, f)], hchain.filter hle f, fun p hp => ?_⟩
        rcases List.mem_append.1 hp with hp | hp
        · exact hlater hle p hp
        · exact List.mem_singleton.1 hp ▸ Nat.le_succ t

open Classical in
/-- The entries of the chosen insertions, as they are and in the order they
have at a moment. -/
noncomputable def chosen (x : Session) (actions : List Action) (r : RootId)
    (chain : List (Nat × Filter)) (m : Nat) : Entries :=
  ((x.moment actions m).database.entries r).filter fun e => ∃ i, Chosen x actions r chain m e.1 i

open Classical in
theorem visible_chained (hx : x.Sound) (h₀ : x.database.entries v.root = [])
    (h : Chained x actions v chain) (hm : ∀ p ∈ chain, p.1 ≤ m) :
    v.visible (x.moment actions m).database = chosen x actions v.root chain m := by
  have hd := (hx.moment actions m).database.distinct v.root
  rw [View.visible_eq_filter (h.fits hx hm) hd, chosen]
  refine List.filter_congr fun e he => ?_
  rw [Bool.eq_iff_iff]
  exact (h.admits_iff hx h₀ he).trans decide_eq_true_iff.symm

/-- An insertion that is present is chosen just if its id is seen. -/
theorem mem_keys_chosen_iff (hx : x.Sound) {i : Nat} (h : Present x actions r id i m) :
    id ∈ Bindings.keys (chosen x actions r chain m) ↔ Chosen x actions r chain m id i := by
  simp only [Bindings.mem_keys_iff, chosen, List.mem_filter, decide_eq_true_iff]
  constructor
  · rintro ⟨e, -, i', hi'⟩
    exact h.unique hx hi'.1 ▸ hi'
  · intro hi
    obtain ⟨-, e, -, he, -⟩ := h.exists_mem hx
    exact ⟨e, he, i, hi⟩

open Classical in
/-- **The identity of filtered views.** A view chained from that of a whole
collection sees, counts, reads, updates and removes the chosen insertions:
those that were present at every filter, passed it as they were, and have
not been removed since. An insertion made after a filter is none of them,
also under an id that was seen before. -/
theorem chained_view_is_chosen (host : Host) (config : Config) (words : List UInt32)
    (actions : List Action) (v : View) (chain : List (Nat × Filter)) (m : Nat)
    (hv : Chained (start host config words) actions v chain) (hm : ∀ p ∈ chain, p.1 ≤ m) :
    let x := start host config words
    let db := (x.moment actions m).database
    let seen := chosen x actions v.root chain m
    v.visible db = seen ∧
    v.count db = seen.length ∧
    (v.options = .default → v.get db = seen.map fun (id, e) => e.fields.withId id) ∧
    (∀ p, (v.update db p).1 = seen.length ∧
      (v.update db p).2.entries v.root = (db.entries v.root).map fun e =>
        (e.1, if ∃ i, Chosen x actions v.root chain m e.1 i then e.2.patch p else e.2)) ∧
    ((v.remove db).1 = seen.length ∧
      (v.remove db).2.entries v.root = (db.entries v.root).filter fun e =>
        ¬ ∃ i, Chosen x actions v.root chain m e.1 i) ∧
    (∀ id, id ∈ Bindings.keys (db.entries v.root) → ∃! i, Present x actions v.root id i m) ∧
    (∀ id i, Present x actions v.root id i m →
      (id ∈ Bindings.keys (v.visible db) ↔ Chosen x actions v.root chain m id i)) ∧
    ∀ id i p, Present x actions v.root id i m → p ∈ chain → p.1 ≤ i →
      id ∉ Bindings.keys (v.visible db) := by
  intro x db seen
  have hx : x.Sound := sound_start host config words
  have h₀ : x.database.entries v.root = [] := rfl
  have hd := (hx.moment actions m).database.distinct v.root
  have hfits := hv.fits hx hm
  have hvisible : v.visible db = seen := visible_chained hx h₀ hv hm
  have hadmits {e : String × Entry} (he : e ∈ db.entries v.root) :
      v.admits e.1 e.2 = true ↔ ∃ i, Chosen x actions v.root chain m e.1 i :=
    hv.admits_iff hx h₀ he
  have hseen {id : String} {i : Nat} (h : Present x actions v.root id i m) :
      id ∈ Bindings.keys (v.visible db) ↔ Chosen x actions v.root chain m id i := by
    rw [hvisible]
    exact mem_keys_chosen_iff hx h
  refine ⟨hvisible, congrArg List.length hvisible, fun hoptions => ?_, fun p => ?_, ⟨?_, ?_⟩,
    fun id hid => ?_, fun id i h => hseen h, fun id i p h hp hle hid => ?_⟩
  · rw [View.get, hoptions, hvisible]
    rfl
  · refine ⟨by rw [View.update_eq hfits hd, hvisible], ?_⟩
    rw [View.entries_update hfits hd]
    refine List.map_congr_left fun e he => ?_
    simp only [hadmits he]
  · rw [View.remove_eq hfits hd, hvisible]
  · rw [View.entries_remove hfits hd]
    refine List.filter_congr fun e he => ?_
    rw [Bool.eq_iff_iff, decide_eq_true_iff, ← hadmits he]
    simp
  · obtain ⟨e, he⟩ := Bindings.mem_keys_iff.1 hid
    obtain ⟨i, hi⟩ := exists_present hx h₀ he
    exact ⟨i, hi, fun i' hi' => hi'.unique hx hi⟩
  · exact absurd (((hseen h).1 hid).2 p hp).1.lt (Nat.not_lt.2 hle)

/-- A run that stores two documents, removes the first and stores another
under its id. -/
def replacing : List Action :=
  [.onStore .init, .onStore (.createCollection "t" "c"),
    .onView "c" (.add (.object [("_id", .string "a"), ("x", .bool true)])),
    .onView "c" (.add (.object [("_id", .string "b"), ("x", .bool true)])),
    .onView "c" (.handle "a" "h"), .onHandle "h" .remove,
    .onView "c" (.add (.object [("_id", .string "a"), ("x", .bool true)]))]

/-- Filtered before the removal and filtered again at the end, the
collection shows the second document alone. -/
theorem chained_view_is_chosen_replacing :
    let x := start (.memory (.new none)) .manual []
    let f : Filter := .fields [("x", .literal (.bool true))]
    let v := (View.whole 0 0 "t").filter (x.moment replacing 4).database f
    let w := v.filter (x.moment replacing 7).database .empty
    let chain := [(4, f), (7, .empty)]
    let db := (x.moment replacing 7).database
    Chained x replacing w chain ∧ (∀ p ∈ chain, p.1 ≤ 7) ∧
      Bindings.keys (db.entries 0) = ["b", "a"] ∧ Bindings.keys (w.visible db) = ["b"] ∧
      w.visible db = chosen x replacing 0 chain 7 := by
  intro x f v w chain db
  have hv : Chained x replacing v [(4, f)] :=
    (Chained.whole 0 0 "t").filter (by simp) f
  have hw : Chained x replacing w chain := hv.filter (by simp) .empty
  have hm : ∀ p ∈ chain, p.1 ≤ 7 := by simp [chain]
  exact ⟨hw, hm, by decide, by decide,
    (chained_view_is_chosen (.memory (.new none)) .manual [] replacing w chain 7 hw hm).1⟩

end Session

end DocumentStore
