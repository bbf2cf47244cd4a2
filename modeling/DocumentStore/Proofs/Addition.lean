import DocumentStore.Proofs.Agreement
import Mathlib.Data.List.Perm.Subperm

/-!
# Additions — one document more, under an id of its own

An addition stores one document behind the others of its collection, without
the field of its id, under the id the document asks for (`Document.Asks`) or
else under the first of the ids that the random words offer which is not in use
(`Identifier.offered`, `draw?_fst`). It is refused where nothing can be stored:
what is no object, a document whose id is in use, and a document without an id
when every id on offer is.

What is stored has a later generation than everything before. So a view that was
filtered before does not admit it, and a view of the whole collection does
(`Added`).
-/

namespace DocumentStore

/-! ## The ids on offer -/

namespace Identifier

variable {taken : String → Bool} {words : List UInt32} {symbols : List Char} {id : String}

/-- The ids that symbols spell, four after four. -/
def spelled : List Char → List String
  | a :: b :: c :: d :: rest => String.ofList [a, b, c, d] :: spelled rest
  | _ => []

/-- The ids that words offer, in order. -/
def offered (words : List UInt32) : List String := spelled (words.filterMap symbol?)

theorem spelled_append (h : symbols.length = length) (rest : List Char) :
    spelled (symbols ++ rest) = String.ofList symbols :: spelled rest := by
  match symbols, h with
  | [a, b, c, d], _ => rfl

theorem spelled_of_short (h : symbols.length < length) : spelled symbols = [] := by
  match symbols, h with
  | [], _ => rfl
  | [a], _ => rfl
  | [a, b], _ => rfl
  | [a, b, c], _ => rfl

/-- A block is full with the symbol behind three. -/
theorem length_of_full {begun : List Char} {c : Char} (hbegun : begun.length < length)
    (hfull : ¬ (begun ++ [c]).length < length) :
    begun.length = 3 ∧ (begun ++ [c]).length = length := by
  have hone : (begun ++ [c]).length = begun.length + 1 := List.length_append
  have hfour : length = 4 := rfl
  omega

/-- What is drawn, behind the symbols of an id begun before. -/
theorem drawFrom?_fst (taken : String → Bool) (words : List UInt32)
    (hbegun : symbols.length < length) :
    (drawFrom? taken symbols words).map Prod.fst =
      (spelled (symbols ++ words.filterMap symbol?)).find? fun id => !taken id := by
  fun_induction drawFrom? taken symbols words with
  | case1 begun => rw [List.filterMap_nil, List.append_nil, spelled_of_short hbegun]; rfl
  | case2 begun word words hnone ih => rw [List.filterMap_cons_none hnone, ih hbegun]
  | case3 begun word words c hsome symbols hshort ih =>
    rw [List.filterMap_cons_some hsome, ih hshort, List.append_assoc]
    rfl
  | case4 begun word words c hsome symbols hlong htaken ih =>
    have hlength : symbols.length = length := (length_of_full hbegun hlong).2
    rw [List.filterMap_cons_some hsome, List.append_cons, spelled_append hlength,
      List.find?_cons_of_neg (by simpa using htaken), ih (by decide)]
    rfl
  | case5 begun word words c hsome symbols hlong hfree =>
    have hlength : symbols.length = length := (length_of_full hbegun hlong).2
    rw [List.filterMap_cons_some hsome, List.append_cons, spelled_append hlength,
      List.find?_cons_of_pos (by simpa using hfree)]
    rfl

/-- **What is drawn** is the first id on offer that is free. -/
theorem draw?_fst (taken : String → Bool) (words : List UInt32) :
    (draw? taken words).map Prod.fst = (offered words).find? fun id => !taken id :=
  drawFrom?_fst taken words (by decide)

/-- An id that is spelled has four of the symbols. -/
theorem exists_of_mem_spelled (h : id ∈ spelled symbols) :
    ∃ four : List Char, id = String.ofList four ∧ four.length = 4 ∧ four ⊆ symbols := by
  fun_induction spelled symbols with
  | case1 a b c d rest ih =>
    rcases List.mem_cons.1 h with rfl | h
    · exact ⟨[a, b, c, d], rfl, rfl, List.subset_append_left [a, b, c, d] rest⟩
    · obtain ⟨four, hid, hlength, hsub⟩ := ih h
      exact ⟨four, hid, hlength, List.Subset.trans hsub (List.subset_append_right [a, b, c, d] rest)⟩
  | case2 => cases h

/-- **An id on offer** has four letters and digits. -/
theorem alphanumeric_of_mem_offered (h : id ∈ offered words) :
    id.length = 4 ∧ ∀ c ∈ id.toList, c.isAlphanum = true := by
  have halphabet : ∀ c ∈ alphabet, c.isAlphanum = true := List.all_eq_true.1 (by decide +kernel)
  obtain ⟨four, rfl, hlength, hsub⟩ := exists_of_mem_spelled h
  refine ⟨by simpa using hlength, fun c hc => ?_⟩
  obtain ⟨word, -, hword⟩ := List.mem_filterMap.1 (hsub (by simpa using hc))
  exact halphabet c (List.mem_of_getElem? hword)

/-- **Where more ids are on offer than are in use**, one that is not is. -/
theorem exists_offered_notMem {ids used : List String} (hids : ids.Nodup)
    (hoffered : ids ⊆ offered words) (hmore : used.length < ids.length) :
    ∃ id ∈ offered words, id ∉ used := by
  by_contra hall
  have hused : ids ⊆ used := fun id hid => by
    by_contra hnot
    exact hall ⟨id, hoffered hid, hnot⟩
  exact absurd (hids.subperm hused).length_le (Nat.not_le.2 hmore)

end Identifier

/-! ## The ids that are asked for -/

/-- A document asks for an id: by a text, if it is not empty, or by a number, in
its written form. -/
def Document.Asks (fields : Document) (id : String) : Prop :=
  (fields.get? idField = some (.string id) ∧ id ≠ "") ∨
    ∃ n, fields.get? idField = some (.number n) ∧ id = n.exactText

theorem Document.explicitId?_eq_some_iff {fields : Document} {id : String} :
    fields.explicitId? = some id ↔ fields.Asks id := by
  unfold explicitId? Asks
  split
  · next s hs =>
    by_cases hempty : s = ""
    · simp +contextual [hs, hempty]
    · simp +contextual [hs, hempty, eq_comm]
  · next n hn => simp [hn, eq_comm]
  · next hstring hnumber =>
    refine iff_of_false nofun ?_
    rintro (⟨hs, -⟩ | ⟨n, hn, -⟩)
    · exact hstring id hs
    · exact hnumber n hn

theorem Document.explicitId?_eq_none {fields : Document} (h : ∀ id, ¬ fields.Asks id) :
    fields.explicitId? = none :=
  Option.eq_none_iff_forall_not_mem.2 fun id hid => h id (explicitId?_eq_some_iff.1 hid)

/-! ## What an addition does -/

/-- What is drawn for a collection: the first id on offer that it does not use. -/
theorem Database.draw?_taken (db : Database) (r : RootId) :
    (Identifier.draw? (fun id => (db.entries r).contains id) db.words).map Prod.fst =
      (Identifier.offered db.words).find? (· ∉ Bindings.keys (db.entries r)) := by
  rw [Identifier.draw?_fst]
  refine congrArg (List.find? · _) (funext fun id => ?_)
  rw [decide_not]
  exact congrArg not (Bool.eq_iff_iff.2 (Bindings.contains_iff.trans decide_eq_true_iff.symm))

namespace View

variable {v : View} {db : Database} {fields : Document} {id : String}

/-- The edit of an addition under an id that was asked for, -/
theorem edit?_add_of_asks (hasks : fields.Asks id) (hfree : id ∉ Bindings.keys (db.entries v.root)) :
    v.edit? db (.add (.object fields)) =
      some (.put v.root id (Bindings.erase fields idField) db.words) := by
  rw [← Bindings.contains_iff] at hfree
  rw [edit?, Document.explicitId?_eq_some_iff.2 hasks]
  exact if_neg hfree

/-- and under an id that was drawn. -/
theorem edit?_add_of_find? (hnone : ∀ id, ¬ fields.Asks id)
    (hfind : (Identifier.offered db.words).find? (· ∉ Bindings.keys (db.entries v.root)) =
      some id) : ∃ words, v.edit? db (.add (.object fields)) =
        some (.put v.root id (Bindings.erase fields idField) words) := by
  obtain ⟨⟨id', words⟩, hdraw, rfl⟩ := Option.map_eq_some_iff.1
    ((Database.draw?_taken db v.root).trans hfind)
  exact ⟨words, by rw [edit?, Document.explicitId?_eq_none hnone, hdraw]; rfl⟩

/-- Where every id on offer is in use, none is drawn. -/
theorem add_exhausted (hnone : ∀ id, ¬ fields.Asks id)
    (hall : ∀ id ∈ Identifier.offered db.words, id ∈ Bindings.keys (db.entries v.root)) :
    v.add db (.object fields) = .error .exhausted := by
  have hdraw : Identifier.draw? (fun id => (db.entries v.root).contains id) db.words = none :=
    Option.map_eq_none_iff.1 ((Database.draw?_taken db v.root).trans
      (List.find?_eq_none.2 fun id hid => by simpa using hall id hid))
  rw [add, Document.explicitId?_eq_none hnone]
  dsimp only
  rw [hdraw]

/-- **A filtered view does not see** what is put behind the entries under the next
generation. -/
theorem visible_of_append {db' : Database} (hfits : v.Fits db)
    (hd : Bindings.Distinct (db.entries v.root)) (hscope : v.scope.isSome)
    (hevolves : db.Evolves db') (hd' : Bindings.Distinct (db'.entries v.root))
    (hentries : db'.entries v.root = db.entries v.root ++ [(id, ⟨db.generation, fields⟩)]) :
    v.visible db' = v.visible db := by
  have hnot : ¬ v.admits id ⟨db.generation, fields⟩ = true := fun hadmits =>
    Nat.lt_irrefl _ (generation_lt_of_admits hfits hscope hadmits)
  rw [visible_eq_filter (hfits.evolves hd hevolves) hd', visible_eq_filter hfits hd, hentries,
    List.filter_append, List.filter_cons_of_neg (by simpa using hnot), List.filter_nil,
    List.append_nil]

end View

/-- A handle of the whole collection reads what is stored under its id. -/
theorem Handle.get?_of_mem {db : Database} {e : Entry} (h : Handle)
    (hd : Bindings.Distinct (db.entries h.root)) (hpin : h.pin = .any)
    (hmem : (h.id, e) ∈ db.entries h.root) : h.get? db = some (e.fields.withId h.id) := by
  rw [get?, entry?, hpin, Bindings.get?_of_mem hd hmem]
  rfl

namespace Session

open Database

variable {x : Session} {v : View} {view id : String} {fields : Document}

/-- What it comes to when a document is stored through a view, where some views
are held. -/
structure Added (held : View → Prop) (x : Session) (v : View) (fields : Document) (id : String)
    (done : Session × Except Refusal Reply) : Prop where
  answer : done.2 = .ok (.id id)
  fresh : id ∉ Bindings.keys (x.database.entries v.root)
  /-- The collection has one entry more, behind the others. -/
  entries : done.1.database.entries v.root = x.database.entries v.root ++
    [(id, ⟨x.database.generation, Bindings.erase fields idField⟩)]
  others : ∀ r, r ≠ v.root → done.1.database.entries r = x.database.entries r
  views : done.1.views = x.views
  handles : done.1.handles = x.handles
  /-- A view of the whole collection sees it. -/
  whole : ∀ w : View, w.root = v.root → w.scope = none →
    w.visible done.1.database = done.1.database.entries v.root
  /-- A view that was filtered before does not. -/
  filtered : ∀ w, held w → w.root = v.root → w.scope.isSome →
    w.visible done.1.database = w.visible x.database ∧
      id ∉ Bindings.keys (w.visible done.1.database)
  /-- A handle of the whole collection reads it. -/
  read : ∀ h : Handle, h.root = v.root → h.id = id → h.pin = .any →
    h.get? done.1.database =
      some (.object (Bindings.erase fields idField ++ [(idField, .string id)]))

/-- **A put adds.** -/
theorem added_of_edit? {held : View → Prop} (hx : x.Sound)
    (hheld : ∀ w, held w → w.Sound x.database) (hview : x.views.get? view = some v)
    {words : List UInt32} (hfree : id ∉ Bindings.keys (x.database.entries v.root))
    (hedit : v.edit? x.database (.add (.object fields)) =
      some (.put v.root id (Bindings.erase fields idField) words)) :
    Added held x v fields id (x.step (.onView view (.add (.object fields)))) := by
  have he : x.edit? (.onView view (.add (.object fields))) =
      some (v.store, .put v.root id (Bindings.erase fields idField) words) :=
    edit?_onView_eq_some_iff.2 ⟨v, hview, rfl, hedit⟩
  have hstep : x.step (.onView view (.add (.object fields))) =
      ({ x with database := ((Edit.put v.root id (Bindings.erase fields idField) words).perform
        v.store x.database).touch v.store }.release, .ok (.id id)) := by
    rw [step_onView hview, onView, View.add_eq_ok_iff.2 ⟨_, words, hedit, rfl⟩]
    rfl
  generalize hdone : x.step (.onView view (.add (.object fields))) = done at hstep ⊢
  have hentries (r : RootId) : done.1.database.entries r =
      (Edit.put v.root id (Bindings.erase fields idField) words).rewrite x.database.generation r
        (x.database.entries r) := hdone ▸ entries_step_of_edit? hx he r
  have hnew : done.1.database.entries v.root = x.database.entries v.root ++
      [(id, ⟨x.database.generation, Bindings.erase fields idField⟩)] :=
    (hentries v.root).trans (if_pos rfl)
  have hevolves : Evolves x.database done.1.database := hdone ▸ evolves_step hx _
  have hdistinct (r : RootId) : Bindings.Distinct (done.1.database.entries r) :=
    (hdone ▸ sound_database_step hx _).1.distinct r
  constructor
  case answer => rw [hstep]
  case fresh => exact hfree
  case entries => exact hnew
  case others => exact fun r hr => (hentries r).trans (if_neg (Ne.symm hr))
  case views => rw [hstep]; rfl
  case handles => rw [hstep]; rfl
  case whole =>
    intro w hroot hscope
    rw [View.visible, hscope, hroot]
  case filtered =>
    intro w hw hroot hscope
    have hfits := (hheld w hw).fits
    have hd := hx.database.distinct w.root
    have hsame : w.visible done.1.database = w.visible x.database :=
      View.visible_of_append hfits hd hscope hevolves (hdistinct w.root) (hroot ▸ hnew)
    refine ⟨hsame, fun hmem => ?_⟩
    obtain ⟨e, he⟩ := Bindings.mem_keys_iff.1 (hsame ▸ hmem)
    exact hfree (hroot ▸ Bindings.mem_keys_iff.2 ⟨e, ((View.mem_visible_iff hfits hd).1 he).1⟩)
  case read =>
    intro h hroot hid hpin
    have hmem : (id, ⟨x.database.generation, Bindings.erase fields idField⟩) ∈
        done.1.database.entries v.root := hnew ▸ List.mem_append_right _ List.mem_cons_self
    rw [h.get?_of_mem (hroot ▸ hdistinct v.root) hpin (hroot ▸ hid ▸ hmem), hid]
    exact congrArg (fun doc => some (Value.object doc))
      (Bindings.insert_of_not_mem (Entries.idField_notMem_erase fields))

/-- An addition that is refused leaves the session as it was. -/
theorem step_add_error (hview : x.views.get? view = some v) {document : Value} {e : StoreError}
    (h : v.add x.database document = .error e) :
    x.step (.onView view (.add document)) = (x, .error (.store e)) := by
  rw [step_onView hview, onView, h]
  rfl

/-- **An addition stores one document under a fresh id.** At every moment, through
every view that is held, what is no object is refused, and so is a document that
asks for an id that is in use. A document that asks for another is added under it
(`Added`). A document that asks for none is added under the first id on offer that
is not in use, which has four letters and digits, and is refused only if the random
words, which are finitely many, run out first: not if they spell more ids than the
collection has documents. What is refused changes nothing. -/
theorem add_appends_one (host : Host) (config : Config) (words : List UInt32)
    (actions : List Action) (t : Nat) (view : String) (v : View)
    (hview : ((start host config words).moment actions t).views.get? view = some v) :
    let x := (start host config words).moment actions t
    let held (w : View) := ∃ n ≤ t, ∃ name,
      ((start host config words).moment actions n).views.get? name = some w
    let used := Bindings.keys (x.database.entries v.root)
    let ids := Identifier.offered x.database.words
    let add (document : Value) := x.step (.onView view (.add document))
    (∀ document, (∀ fields, document ≠ .object fields) →
      add document = (x, .error (.store .invalidDocument))) ∧
    ∀ fields : Document,
      (∀ id, fields.Asks id → id ∈ used →
        add (.object fields) = (x, .error (.store (.duplicateId id)))) ∧
      (∀ id, fields.Asks id → id ∉ used → Added held x v fields id (add (.object fields))) ∧
      ((∀ id, ¬ fields.Asks id) →
        (∀ id, ids.find? (· ∉ used) = some id →
          (id.length = 4 ∧ ∀ c ∈ id.toList, c.isAlphanum = true) ∧
            Added held x v fields id (add (.object fields))) ∧
        ((∀ id ∈ ids, id ∈ used) → add (.object fields) = (x, .error (.store .exhausted))) ∧
        ∀ several : List String, several.Nodup → several ⊆ ids → used.length < several.length →
          ∃ id ∈ ids, Added held x v fields id (add (.object fields))) := by
  intro x held used ids add
  have hstart : (start host config words).Sound := sound_start host config words
  have hx : x.Sound := hstart.moment actions t
  have hheld (w : View) (hw : held w) : w.Sound x.database := by
    obtain ⟨n, hn, name, hname⟩ := hw
    exact hstart.view_moment hname hn
  refine ⟨fun document hdocument => step_add_error hview ?_, fun fields => ⟨fun id hasks hused =>
    step_add_error hview ?_, fun id hasks hfree =>
      added_of_edit? hx hheld hview hfree (View.edit?_add_of_asks hasks hfree), fun hnone => ?_⟩⟩
  · cases document with
    | object fields => exact absurd rfl (hdocument fields)
    | _ => rfl
  · rw [View.add, Document.explicitId?_eq_some_iff.2 hasks]
    exact if_pos (Bindings.contains_iff.2 hused)
  · have hfound (id : String) (hfind : ids.find? (· ∉ used) = some id) :
        Added held x v fields id (add (.object fields)) := by
      obtain ⟨words', hedit⟩ := View.edit?_add_of_find? hnone hfind
      have hfree : id ∉ used := by simpa using List.find?_some hfind
      exact added_of_edit? hx hheld hview hfree hedit
    refine ⟨fun id hfind => ⟨Identifier.alphanumeric_of_mem_offered
      (List.mem_of_find?_eq_some hfind), hfound id hfind⟩,
      fun hall => step_add_error hview (View.add_exhausted hnone hall),
      fun several hseveral hoffered hmore => ?_⟩
    obtain ⟨id, hid, hfree⟩ := Identifier.exists_offered_notMem hseveral hoffered hmore
    have hfinds : (ids.find? (· ∉ used)).isSome := by
      rw [List.find?_isSome]
      exact ⟨id, hid, by simpa using hfree⟩
    obtain ⟨id', hfind⟩ := Option.isSome_iff_exists.1 hfinds
    exact ⟨id', List.mem_of_find?_eq_some hfind, hfound id' hfind⟩

/-- A run that stores a document and filters it. -/
def appending : List Action :=
  [.onStore .init, .onStore (.createCollection "t" "c"),
    .onView "c" (.add (.object [("_id", .string "a")])), .onView "c" (.filter .empty "f")]

/-- The moments of that run, on a host in memory and with words for one id. -/
def appendingAt (m : Nat) : Session :=
  (start (.memory (.new none)) .manual [0, 0, 0, 0]).moment appending m

/-- A number between other fields is taken out of them and becomes the id; an
empty text is passed over. -/
theorem add_appends_one_numbered :
    (appendingAt 4).views.get? "c" = some (.whole 0 0 "t") ∧
      let seven : Value := .number (.integer ⟨7, by decide, by decide⟩)
      let x := appendingAt 4
      let done := x.step (.onView "c" (.add (.object [("x", .null), ("_id", seven), ("y", .null)])))
      let drawn := x.step (.onView "c" (.add (.object [("_id", .string "")])))
      done.2 = .ok (.id "7") ∧ Bindings.keys (done.1.database.entries 0) = ["a", "7"] ∧
        (View.mk 0 0 "t" (some [("a", 1)]) .default).visible done.1.database =
          x.database.entries 0 ∧
        (Handle.mk 0 0 "7" .any).get? done.1.database =
          some (.object [("x", .null), ("y", .null), ("_id", .string "7")]) ∧
        drawn.2 = .ok (.id "AAAA") := by
  have hview : (appendingAt 4).views.get? "c" = some (.whole 0 0 "t") := by cbv
  refine ⟨hview, ?_⟩
  intro seven x done drawn
  obtain ⟨-, hadd⟩ := add_appends_one (.memory (.new none)) .manual [0, 0, 0, 0] appending 4 "c" _
    hview
  have hdone := (hadd [("x", .null), ("_id", seven), ("y", .null)]).2.1 "7"
    (.inr ⟨_, rfl, by decide⟩) (by decide)
  have hnone (id : String) : ¬ Document.Asks [("_id", .string "")] id := by
    have hempty : Bindings.get? [("_id", Value.string "")] idField = some (.string "") := rfl
    rintro (⟨hid, hne⟩ | ⟨n, hid, -⟩)
    · exact hne (Value.string.inj (Option.some.inj (hid.symm.trans hempty)))
    · cases hid.symm.trans hempty
  have hdrawn := ((hadd [("_id", .string "")]).2.2 hnone).1 "AAAA" (by decide)
  have hfilter : (appendingAt 4).views.get? "f" =
      some ⟨0, 0, "t", some [("a", 1)], .default⟩ := by cbv
  refine ⟨hdone.answer, (congrArg Bindings.keys hdone.entries).trans (by decide), ?_,
    hdone.read ⟨0, 0, "7", .any⟩ rfl rfl rfl, hdrawn.2.answer⟩
  exact (hdone.filtered _ ⟨4, Nat.le_refl 4, "f", hfilter⟩ rfl rfl).1

end Session

end DocumentStore
