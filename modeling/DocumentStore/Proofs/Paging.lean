import DocumentStore.Proofs.Agreement
import DocumentStore.Proofs.Sorting
import Mathlib.Data.Nat.Find

/-!
# Paging — what is read of a view

A view is shaped by calls that append a key, or set what is skipped or the
limit (`Shaping`). What is read of it is the page that the last of these calls
ask for, of the documents it sees in the stable order of all the keys
(`View.get_shaped`); whether they are streamed, as they are without keys, or
sorted first makes no difference (`View.get_eq`).

Hence the pages of a view, one behind the other up to the first that is empty,
are all it reads without a page (`View.flatMap_pages`), each document once.
-/

namespace DocumentStore

/-! ## Calls -/

/-- A call that shapes what is read of a view. -/
inductive Shaping where
  | limit (n : Nat)
  | skip (n : Nat)
  | orderBy (field : String) (direction : Direction)

namespace Shaping

/-- The key that a call appends. -/
def key? : Shaping → Option (String × Direction)
  | .orderBy field direction => some (field, direction)
  | _ => none

/-- How many documents a call asks to skip. -/
def skip? : Shaping → Option Nat
  | .skip n => some n
  | _ => none

/-- How many documents a call asks to keep. -/
def limit? : Shaping → Option Nat
  | .limit n => some n
  | _ => none

/-- The keys of calls, in the order they were appended. -/
def keys (calls : List Shaping) : SortKeys := calls.filterMap key?

/-- How many documents the last call about it has skipped; none without one. -/
def skipped (calls : List Shaping) : Nat := (calls.filterMap skip?).getLast?.getD 0

/-- The page of a list that calls ask for: the documents behind the skipped
ones, at most as many as the last limit. Without a limit and with the limit zero
these are all. -/
def page (calls : List Shaping) (docs : List Value) : List Value :=
  match (calls.filterMap limit?).getLast? with
  | none => docs.drop (skipped calls)
  | some 0 => docs.drop (skipped calls)
  | some (n + 1) => (docs.drop (skipped calls)).take (n + 1)

/-- The options that calls give a view without any. -/
def options (calls : List Shaping) : Options where
  orderBy := keys calls
  limit := (calls.filterMap limit?).getLast?
  skip := (calls.filterMap skip?).getLast?

theorem page_options (calls : List Shaping) (docs : List Value) :
    (options calls).page docs = page calls docs := by
  unfold Options.page Options.limitCount? options page
  cases (calls.filterMap limit?).getLast? with
  | none => rfl
  | some n =>
    cases n with
    | zero => rfl
    | succ n => rfl

/-- The options after one more call. -/
theorem options_append_singleton (calls : List Shaping) (call : Shaping) :
    options (calls ++ [call]) = match call with
      | .limit n => { options calls with limit := some n }
      | .skip n => { options calls with skip := some n }
      | .orderBy field direction => (options calls).addKey field direction := by
  cases call <;>
    simp [options, keys, Options.addKey, key?, skip?, limit?, List.filterMap_append]

/-- Some calls give any options. -/
theorem exists_options_eq (o : Options) : ∃ calls, options calls = o := by
  obtain ⟨orderBy, limit, skip⟩ := o
  refine ⟨orderBy.map (fun key => .orderBy key.1 key.2) ++ limit.toList.map .limit ++
    skip.toList.map .skip, ?_⟩
  cases limit <;> cases skip <;>
    simp [options, keys, key?, skip?, limit?, List.filterMap_append, List.filterMap_map,
      List.filterMap_cons, Function.comp_def]

end Shaping

namespace Options

variable {α β : Type}

theorem page_map (o : Options) (f : α → β) (docs : List α) :
    o.page (docs.map f) = (o.page docs).map f := by
  unfold page
  cases o.limitCount? with
  | none => exact List.map_drop.symm
  | some n => rw [← List.map_drop, List.map_take]

/-- A page is a part of a list. -/
theorem page_sublist (o : Options) (docs : List α) :
    (o.page docs).Sublist docs := by
  rw [page]
  split
  · exact (List.take_sublist _ _).trans (List.drop_sublist _ _)
  · exact List.drop_sublist _ _

end Options

/-- The first pages of a list, one behind the other, are the front of the list. -/
theorem flatMap_take_drop {α : Type} (docs : List α) (size count : Nat) :
    (List.range count).flatMap (fun k => (docs.drop (k * size)).take size) =
      docs.take (count * size) := by
  induction count with
  | zero => rw [Nat.zero_mul, List.take_zero, List.range_zero, List.flatMap_nil]
  | succ count ih =>
    rw [List.range_succ, List.flatMap_append, ih, List.flatMap_singleton, Nat.succ_mul,
      List.take_add]

namespace View

variable {v : View} {db : Database}

/-- The documents a view sees, each with its id, in the order of the view. -/
def documents (v : View) (db : Database) : List Value :=
  (v.visible db).map fun e => e.2.fields.withId e.1

/-- The view that a call makes. -/
def shape (v : View) : Shaping → View
  | .limit n => v.limit n
  | .skip n => v.skip n
  | .orderBy field direction => v.orderBy field direction

/-- The view that calls make, one after the other. -/
def shaped (v : View) (calls : List Shaping) : View := calls.foldl shape v

/-- **Calls set the options** and leave the rest of the view. -/
theorem shaped_eq (hv : v.options = .default) (calls : List Shaping) :
    v.shaped calls = { v with options := Shaping.options calls } := by
  induction calls using List.reverseRecOn with
  | nil => exact congrArg (fun o => { v with options := o }) hv
  | append_singleton calls call ih =>
    have hlast : v.shaped (calls ++ [call]) = (v.shaped calls).shape call := by
      rw [shaped, List.foldl_append]
      rfl
    rw [hlast, ih, Shaping.options_append_singleton]
    cases call <;> rfl

/-! ## Reading -/

/-- **A view reads a page of its documents in order.** Without keys the page is
taken before the documents are read out, and it is the same. -/
theorem get_eq (v : View) (db : Database) :
    v.get db = v.options.page (v.options.orderBy.sort (v.documents db)) := by
  rw [get, documents]
  dsimp only
  split
  · next h => rw [SortKeys.sort, if_pos h, Options.page_map]
  · rfl

theorem get_unpaged (v : View) (db : Database) :
    v.unpaged.get db = v.options.orderBy.sort (v.documents db) := by
  rw [get_eq]
  rfl

/-- **What is read of a shaped view** is the page of its documents, in the
stable order of the keys, that the calls ask for. -/
theorem get_shaped (hv : v.options = .default) (calls : List Shaping) (db : Database) :
    (v.shaped calls).get db =
      Shaping.page calls ((Shaping.keys calls).sort (v.documents db)) := by
  rw [get_eq, shaped_eq hv, Shaping.page_options]
  rfl

/-- Without the page it is all of them. -/
theorem get_unpaged_shaped (hv : v.options = .default) (calls : List Shaping) (db : Database) :
    (v.shaped calls).unpaged.get db = (Shaping.keys calls).sort (v.documents db) := by
  rw [get_unpaged, shaped_eq hv]
  rfl

/-! ## Pages -/

/-- The view of one page, the first being number zero. -/
def pageAt (v : View) (size number : Nat) : View := (v.skip (number * size)).limit size

/-- A page is that part of what is read without a page. -/
theorem get_pageAt {size : Nat} (hsize : 0 < size) (number : Nat) (v : View) (db : Database) :
    (v.pageAt size number).get db = ((v.unpaged.get db).drop (number * size)).take size := by
  have hlimit : (v.pageAt size number).options.limitCount? = some size := by
    rw [Options.limitCount?]
    exact Option.filter_some_pos (decide_eq_true hsize)
  rw [get_eq, Options.page, hlimit, get_unpaged]
  rfl

/-- **The pages of a view are all that it reads**, one behind the other up to
the first that is empty. -/
theorem flatMap_pages {size : Nat} (hsize : 0 < size) (v : View) (db : Database) :
    ∃ count, (v.pageAt size count).get db = [] ∧
      (∀ k < count, (v.pageAt size k).get db ≠ []) ∧
      (List.range count).flatMap (fun k => (v.pageAt size k).get db) = v.unpaged.get db := by
  simp only [get_pageAt hsize]
  generalize v.unpaged.get db = docs
  have hex : ∃ count, docs.length ≤ count * size :=
    ⟨docs.length, Nat.le_mul_of_pos_right _ hsize⟩
  -- the first page past all documents is the first that is empty
  refine ⟨Nat.find hex, ?_, fun k hk => ?_, ?_⟩
  · rw [List.drop_eq_nil_of_le (Nat.find_spec hex), List.take_nil]
  · have hbehind : k * size < docs.length := Nat.lt_of_not_le (Nat.find_min hex hk)
    refine List.ne_nil_of_length_pos ?_
    rw [List.length_take, List.length_drop]
    omega
  · rw [flatMap_take_drop, List.take_of_length_le (Nat.find_spec hex)]

/-- **Of an id that a view sees there is one document.** -/
theorem countP_documents (h : v.Fits db) (hd : Bindings.Distinct (db.entries v.root)) {id : String}
    (hid : id ∈ Bindings.keys (v.visible db)) :
    (v.documents db).countP (Value.hasId id) = 1 := by
  have hagrees := Handle.agrees_of_fits h hd id
  have hsome : ((v.handle id).get? db).isSome = true :=
    hagrees.get_isSome.trans (hagrees.isPresent.2 hid)
  obtain ⟨document, hdocument⟩ := Option.isSome_iff_exists.1 hsome
  have hfilter : (v.unpaged.get db).filter (Value.hasId id) = ((v.handle id).get? db).toList :=
    hagrees.get
  have hperm : (v.unpaged.get db).Perm (v.documents db) := get_unpaged_perm v db
  rw [← hperm.countP_eq, List.countP_eq_length_filter, hfilter, hdocument]
  rfl

end View

namespace Session

variable {x : Session} {actions : List Action} {m : Nat} {name : String} {v : View}

/-- **Every view that is held** was made by calls from one that was held when it
had no options yet: that of a whole collection, or what a filter gave. -/
theorem exists_base (hx : x.Sound) (hviews : x.views = [])
    (hget : (x.moment actions m).views.get? name = some v) :
    ∃ n name' base calls, n ≤ m ∧ (x.moment actions n).views.get? name' = some base ∧
      base.options = .default ∧ v = base.shaped calls := by
  induction m generalizing name v with
  | zero => rw [moment_zero, hviews] at hget; cases hget
  | succ m ih =>
    have hbefore {name : String} {v : View} (hget : (x.moment actions m).views.get? name = some v) :
        ∃ n name' base calls, n ≤ m + 1 ∧ (x.moment actions n).views.get? name' = some base ∧
          base.options = .default ∧ v = base.shaped calls := by
      obtain ⟨n, name', base, calls, hn, hbase⟩ := ih hget
      exact ⟨n, name', base, calls, Nat.le_succ_of_le hn, hbase⟩
    cases ha : actions[m]? with
    | none =>
      rw [moment_succ_of_none ha] at hget
      exact hbefore hget
    | some a =>
      have harises := arises_step (hx.moment actions m) (moment_succ ha ▸ hget)
      cases harises with
      | kept hold => exact hbefore hold
      | whole made hs hr => exact ⟨m + 1, name, _, [], Nat.le_refl _, hget, rfl, rfl⟩
      | options hold options =>
        -- whatever the options now are, calls on the same base give them
        obtain ⟨n, name', base, calls, hn, hbase, hdefault, rfl⟩ := hbefore hold
        obtain ⟨calls', rfl⟩ := Shaping.exists_options_eq options
        refine ⟨n, name', base, calls', hn, hbase, hdefault, ?_⟩
        rw [View.shaped_eq hdefault, View.shaped_eq hdefault]
      | filter hold f => exact ⟨m + 1, name, _, [], Nat.le_refl _, hget, rfl, rfl⟩

/-- **Reading a view gives a page of its stable order.** Every view that is held
was made by calls from a view without options, and of all that such calls make
is read, at every moment, the page the calls ask for: the documents the view
sees, each with its id, in the one stable order of the keys, without what the
last call about it skips, and no more than the last limit. With calls for the
pages of a size, one behind the other up to the first that is empty, all
documents are read that are read without a page, each id of the view once. -/
theorem reading_is_page_of_stable_sort (host : Host) (config : Config) (words : List UInt32)
    (actions : List Action) :
    let x := start host config words
    (∀ m name v, (x.moment actions m).views.get? name = some v →
      ∃ n name' base calls, n ≤ m ∧ (x.moment actions n).views.get? name' = some base ∧
        base.options = .default ∧ v = base.shaped calls) ∧
    ∀ n name base, (x.moment actions n).views.get? name = some base → base.options = .default →
      ∀ m, n ≤ m → ∀ calls,
        let db := (x.moment actions m).database
        let v := base.shaped calls
        ∃ sorted, SortKeys.StableSorted (Shaping.keys calls) (base.documents db) sorted ∧
          v.get db = Shaping.page calls sorted ∧
          v.unpaged.get db = sorted ∧
          (∀ size, 0 < size → ∃ count, (v.pageAt size count).get db = [] ∧
            (∀ k < count, (v.pageAt size k).get db ≠ []) ∧
            (List.range count).flatMap (fun k => (v.pageAt size k).get db) = sorted) ∧
          ∀ id ∈ Bindings.keys (base.visible db), sorted.countP (Value.hasId id) = 1 := by
  intro x
  have hx : x.Sound := sound_start host config words
  refine ⟨fun m name v hget => exists_base hx rfl hget,
    fun n name base hbase hdefault m hm calls => ?_⟩
  intro db v
  have hfits : base.Fits db := (hx.view_moment hbase hm).fits
  have hd := (hx.moment actions m).database.distinct base.root
  have hsorted := SortKeys.stableSorted_sort (Shaping.keys calls) (base.documents db)
  have hunpaged := View.get_unpaged_shaped hdefault calls db
  refine ⟨_, hsorted, View.get_shaped hdefault calls db, hunpaged, fun size hsize => ?_,
    fun id hid => ?_⟩
  · rw [← hunpaged]
    exact View.flatMap_pages hsize v db
  · rw [hsorted.perm.countP_eq]
    exact View.countP_documents hfits hd hid

/-- A run that stores three documents, filters them and removes the first. -/
def ranking : List Action :=
  [.onStore .init, .onStore (.createCollection "t" "c"),
    .onView "c" (.add (.object [("_id", .string "a"), ("g", .bool true)])),
    .onView "c" (.add (.object [("_id", .string "b")])),
    .onView "c" (.add (.object [("_id", .string "c"), ("g", .bool true)])),
    .onView "c" (.filter .empty "f"), .onView "c" (.handle "a" "h"), .onHandle "h" .remove]

/-- The moments of that run, on a host in memory. -/
def rankingAt (m : Nat) : Session := (start (.memory (.new none)) .manual []).moment ranking m

/-- Of the two documents left, in descending order, all but the first are read:
the second limit, which is none, has taken the place of the first. -/
theorem reading_is_page_of_stable_sort_ranking :
    let base : View := ⟨0, 0, "t", some [("a", 1), ("b", 2), ("c", 3)], .default⟩
    let calls : List Shaping := [.limit 1, .orderBy "g" .descending, .skip 1, .limit 0]
    let db := (rankingAt 8).database
    (rankingAt 6).views.get? "f" = some base ∧ base.options = .default ∧
      (base.shaped calls).get db = [.object [("_id", .string "b")]] ∧
      ∃ sorted, SortKeys.StableSorted [("g", .descending)] (base.documents db) sorted ∧
        (base.shaped calls).get db = sorted.drop 1 ∧
        (base.shaped calls).unpaged.get db = sorted ∧
        ∃ count, ((base.shaped calls).pageAt 1 count).get db = [] ∧
          (∀ k < count, ((base.shaped calls).pageAt 1 k).get db ≠ []) ∧
          (List.range count).flatMap (fun k => ((base.shaped calls).pageAt 1 k).get db) =
            sorted := by
  intro base calls db
  have hbase : (rankingAt 6).views.get? "f" =
      some ⟨0, 0, "t", some [("a", 1), ("b", 2), ("c", 3)], .default⟩ := by cbv
  have hdocuments : View.documents ⟨0, 0, "t", some [("a", 1), ("b", 2), ("c", 3)], .default⟩
      (rankingAt 8).database = [.object [("_id", .string "b")],
        .object [("g", .bool true), ("_id", .string "c")]] := rfl
  have hsort : (Shaping.keys calls).sort [.object [("_id", .string "b")],
      .object [("g", .bool true), ("_id", .string "c")]] =
        [.object [("g", .bool true), ("_id", .string "c")], .object [("_id", .string "b")]] := by
    have hlater : (Shaping.keys calls).precedes (.object [("_id", .string "b")])
        (.object [("g", .bool true), ("_id", .string "c")]) = false := by decide
    rw [SortKeys.sort, if_neg (by decide)]
    simp [List.mergeSort, hlater]
  have hread : (base.shaped calls).get db = [.object [("_id", .string "b")]] := by
    rw [View.get_shaped rfl, hdocuments, hsort]
    rfl
  obtain ⟨sorted, hsorted, hget, hunpaged, hpages, -⟩ :=
    (reading_is_page_of_stable_sort (.memory (.new none)) .manual [] ranking).2 6 "f" base hbase rfl
      8 (by decide) calls
  exact ⟨hbase, rfl, hread, sorted, hsorted, hget, hunpaged, hpages 1 Nat.one_pos⟩

end Session

end DocumentStore
