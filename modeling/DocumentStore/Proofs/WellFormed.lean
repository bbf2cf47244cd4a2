import DocumentStore.Proofs.Ownership
import DocumentStore.Proofs.WriteBack

/-!
# Well-formedness — no object has a key twice

What is read from a text is well-formed, whatever the text is
(`Value.wellFormed_of_read?`), and documents stay so under every change
(`Patch.WellFormed.apply`). So where the values that operations carry are
well-formed (`Action.WellFormed`), the documents of a database are, and with
them the snapshots its stores offer (`Database.WellFormed`,
`Session.wellFormed_moment`).
-/

namespace DocumentStore

/-! ## Reading -/

namespace Bindings

variable {α : Type} {m : Bindings α} {k : String} {v : α}

theorem distinct_ofPairs (pairs : List (String × α)) : Distinct (ofPairs pairs) :=
  List.foldlRecOn pairs _ List.nodup_nil fun _ hd e _ => hd.insert e.1 e.2

/-- Reading keeps the last of the values of a key, and makes none. -/
theorem mem_of_mem_ofPairs {pairs : List (String × α)} (h : (k, v) ∈ ofPairs pairs) :
    (k, v) ∈ pairs := by
  have hfold : ∀ e ∈ ofPairs pairs, e ∈ pairs := by
    refine List.foldlRecOn (motive := fun m => ∀ e ∈ m, e ∈ pairs) pairs _ (by simp) ?_
    intro m hm e he e' he'
    rcases mem_insert he' with hmem | ⟨hk, hv⟩
    · exact hm e' hmem
    · exact Prod.ext hk hv ▸ he
  exact hfold (k, v) h

end Bindings

namespace Value

theorem wellFormed_object_iff {members : List (String × Value)} :
    (Value.object members).WellFormed ↔
      Bindings.Distinct members ∧ ∀ k v, (k, v) ∈ members → v.WellFormed := by
  rw [WellFormed, membersWellFormed_iff]

theorem wellFormed_array_iff {items : List Value} :
    (Value.array items).WellFormed ↔ ∀ v ∈ items, v.WellFormed := by
  rw [WellFormed, itemsWellFormed_iff]

/-- With so many steps only well-formed values are read, -/
def ReadsWellFormed (fuel : Nat) : Prop :=
  ∀ levels text v rest, readValue fuel levels text = some (v, rest) → v.WellFormed

/-- only well-formed items, -/
def ReadsWellFormedItems (fuel : Nat) : Prop :=
  ∀ levels text items rest, readItems fuel levels text = some (items, rest) →
    ∀ v ∈ items, v.WellFormed

/-- and only well-formed members. -/
def ReadsWellFormedMembers (fuel : Nat) : Prop :=
  ∀ levels text members rest, readMembers fuel levels text = some (members, rest) →
    ∀ k v, (k, v) ∈ members → v.WellFormed

variable {fuel : Nat}

theorem readsWellFormed_succ (hitems : ReadsWellFormedItems fuel)
    (hmembers : ReadsWellFormedMembers fuel) : ReadsWellFormed (fuel + 1) := by
  intro levels text v rest h
  rw [readValue] at h
  split at h
  case h_5 =>
    split at h
    · cases h
    · split at h
      · cases h
        trivial
      · obtain ⟨⟨items, after⟩, hread, heq⟩ := Option.map_eq_some_iff.1 h
        cases heq
        exact wellFormed_array_iff.2 (hitems _ _ items _ hread)
  case h_6 =>
    split at h
    · cases h
    · split at h
      · cases h
        exact ⟨List.nodup_nil, trivial⟩
      · obtain ⟨⟨members, after⟩, hread, heq⟩ := Option.map_eq_some_iff.1 h
        cases heq
        refine wellFormed_object_iff.2 ⟨Bindings.distinct_ofPairs members, fun k v hmem => ?_⟩
        exact hmembers _ _ members _ hread k v (Bindings.mem_of_mem_ofPairs hmem)
  -- what is neither array nor object has no keys
  case h_4 =>
    obtain ⟨found, -, heq⟩ := Option.map_eq_some_iff.1 h
    cases heq
    trivial
  case h_7 =>
    obtain ⟨found, -, heq⟩ := Option.map_eq_some_iff.1 h
    cases heq
    trivial
  all_goals
    cases h
    trivial

theorem readsWellFormedItems_succ (hvalue : ReadsWellFormed fuel)
    (hitems : ReadsWellFormedItems fuel) : ReadsWellFormedItems (fuel + 1) := by
  intro levels text items rest h
  rw [readItems] at h
  obtain ⟨⟨v, after⟩, hv, h⟩ := Option.bind_eq_some_iff.1 h
  dsimp only at h
  have hfirst := hvalue _ _ v after hv
  split at h
  · obtain ⟨⟨more, after'⟩, hmore, h⟩ := Option.bind_eq_some_iff.1 h
    cases h
    exact List.forall_mem_cons.2 ⟨hfirst, hitems _ _ more _ hmore⟩
  · cases h
    exact List.forall_mem_singleton.2 hfirst
  · cases h

theorem readsWellFormedMembers_succ (hvalue : ReadsWellFormed fuel)
    (hmembers : ReadsWellFormedMembers fuel) : ReadsWellFormedMembers (fuel + 1) := by
  intro levels text members rest h
  rw [readMembers] at h
  split at h
  · obtain ⟨⟨key, after⟩, -, h⟩ := Option.bind_eq_some_iff.1 h
    dsimp only at h
    split at h
    · obtain ⟨⟨v, after'⟩, hv, h⟩ := Option.bind_eq_some_iff.1 h
      dsimp only at h
      have hfirst := hvalue _ _ v after' hv
      split at h
      · obtain ⟨⟨more, after''⟩, hmore, h⟩ := Option.bind_eq_some_iff.1 h
        cases h
        intro k u hmem
        rcases List.mem_cons.1 hmem with heq | hmem
        · cases heq
          exact hfirst
        · exact hmembers _ _ more _ hmore k u hmem
      · cases h
        intro k u hmem
        cases List.mem_singleton.1 hmem
        exact hfirst
      · cases h
    · cases h
  · cases h

/-- **However many steps are allowed**, what is read is well-formed. -/
theorem readsWellFormed (fuel : Nat) :
    ReadsWellFormed fuel ∧ ReadsWellFormedItems fuel ∧ ReadsWellFormedMembers fuel := by
  induction fuel with
  | zero => exact ⟨nofun, nofun, nofun⟩
  | succ fuel ih =>
    obtain ⟨hvalue, hitems, hmembers⟩ := ih
    exact ⟨readsWellFormed_succ hitems hmembers, readsWellFormedItems_succ hvalue hitems,
      readsWellFormedMembers_succ hvalue hmembers⟩

/-- **Every text that is read is read as a well-formed value.** -/
theorem wellFormed_of_read? {levels : Nat} {text : String} {v : Value}
    (h : read? levels text = some v) : v.WellFormed := by
  obtain ⟨⟨v', rest⟩, hread, h⟩ := Option.bind_eq_some_iff.1 h
  obtain ⟨-, heq⟩ := Option.ite_none_right_eq_some.1 h
  cases heq
  exact (readsWellFormed _).1 levels _ v rest hread

end Value

/-! ## Documents -/

/-- No object in a document has a key twice, and neither has the document. -/
def Document.WellFormed (doc : Document) : Prop := (Value.object doc).WellFormed

namespace Document

variable {doc : Document} {v : Value}

theorem WellFormed.insert (h : WellFormed doc) (hv : v.WellFormed) (k : String) :
    WellFormed (Bindings.insert doc k v) := by
  obtain ⟨hd, hmembers⟩ := Value.wellFormed_object_iff.1 h
  refine Value.wellFormed_object_iff.2 ⟨hd.insert k v, fun k' v' hmem => ?_⟩
  rcases Bindings.mem_insert hmem with hmem | ⟨-, rfl⟩
  · exact hmembers k' v' hmem
  · exact hv

theorem WellFormed.erase (h : WellFormed doc) (k : String) : WellFormed (Bindings.erase doc k) := by
  obtain ⟨hd, hmembers⟩ := Value.wellFormed_object_iff.1 h
  exact Value.wellFormed_object_iff.2
    ⟨hd.erase k, fun k' v hmem => hmembers k' v (List.mem_filter.1 hmem).1⟩

end Document

/-! ## Patches -/

/-- The value an update stores is well-formed. -/
def FieldUpdate.WellFormed : FieldUpdate → Prop
  | .set v => v.WellFormed
  | .push item => item.WellFormed
  | .unshift item => item.WellFormed
  | _ => True

/-- What is computed has no objects in it. -/
theorem Arithmetic.wellFormed_apply (op : Arithmetic) (field : Option Value) (operand : Value) :
    (op.apply field operand).WellFormed := by
  have hnumber (n : Number) : (Value.number n).WellFormed := trivial
  have hof (x : Binary64) : (Value.ofBinary64 x).WellFormed := by
    cases x with
    | finite x =>
      rw [Value.ofBinary64]
      split
      · unfold Value.ofInt?
        cases WideInt.ofInt? x.truncate <;> trivial
      · trivial
    | _ => trivial
  unfold Arithmetic.apply
  cases hexact : op.exactly? field operand with
  | none =>
    unfold coerced
    dsimp only [Option.getD_none]
    split
    · trivial
    · exact hof _
  | some v =>
    unfold exactly? at hexact
    split at hexact
    · obtain ⟨-, hexact⟩ := Option.ite_none_right_eq_some.1 hexact
      obtain ⟨r, -, hexact⟩ := Option.bind_eq_some_iff.1 hexact
      obtain ⟨-, heq⟩ := Option.ite_none_right_eq_some.1 hexact
      cases heq
      trivial
    · cases hexact

theorem FieldUpdate.wellFormed_onArray {f : List Value → List Value}
    (hkeeps : ∀ items, (∀ w ∈ items, w.WellFormed) → ∀ w ∈ f items, w.WellFormed)
    {field : Option Value} (hf : ∀ v, field = some v → v.WellFormed) {v : Value}
    (hv : onArray f field = some v) : v.WellFormed := by
  unfold onArray at hv
  split at hv
  · next items =>
    cases hv
    exact Value.wellFormed_array_iff.2 (hkeeps items (Value.wellFormed_array_iff.1 (hf _ rfl)))
  · exact hf v hv

theorem FieldUpdate.wellFormed_onArrayOrAbsent {f : List Value → List Value}
    (hkeeps : ∀ items, (∀ w ∈ items, w.WellFormed) → ∀ w ∈ f items, w.WellFormed)
    {field : Option Value} (hf : ∀ v, field = some v → v.WellFormed) {v : Value}
    (hv : onArrayOrAbsent f field = some v) : v.WellFormed := by
  unfold onArrayOrAbsent at hv
  split at hv
  · cases hv
    exact Value.wellFormed_array_iff.2 (hkeeps [] (by simp))
  · exact wellFormed_onArray hkeeps hf hv

/-- **An update keeps a field well-formed.** -/
theorem FieldUpdate.WellFormed.apply {u : FieldUpdate} (hu : u.WellFormed) {field : Option Value}
    (hf : ∀ v, field = some v → v.WellFormed) {v : Value} (hv : u.apply field = some v) :
    v.WellFormed := by
  cases u with
  | set w => cases hv; exact hu
  | remove => cases hv
  | inc operand => cases hv; exact Arithmetic.wellFormed_apply .add field operand
  | mul operand => cases hv; exact Arithmetic.wellFormed_apply .mul field operand
  | push item =>
    refine wellFormed_onArrayOrAbsent (f := (· ++ [item])) (fun items hitems w hw => ?_) hf hv
    rcases List.mem_append.1 hw with hw | hw
    · exact hitems w hw
    · exact List.mem_singleton.1 hw ▸ hu
  | pop =>
    exact wellFormed_onArray (f := List.dropLast)
      (fun items hitems w hw => hitems w (List.dropLast_subset items hw)) hf hv
  | shift =>
    exact wellFormed_onArray (f := List.drop 1)
      (fun items hitems w hw => hitems w (List.mem_of_mem_drop hw)) hf hv
  | unshift item =>
    refine wellFormed_onArrayOrAbsent (f := (item :: ·)) (fun items hitems w hw => ?_) hf hv
    rcases List.mem_cons.1 hw with rfl | hw
    · exact hu
    · exact hitems w hw

/-- The values a patch stores are well-formed. -/
def Patch.WellFormed (p : Patch) : Prop := ∀ name u, (name, u) ∈ p → FieldUpdate.WellFormed u

theorem Patch.wellFormed_of_ofValue? {value : Value} {p : Patch} (hv : value.WellFormed)
    (h : Patch.ofValue? value = .ok p) : p.WellFormed := by
  cases value with
  | object members =>
    cases h
    intro name u hmem
    obtain ⟨⟨name', v⟩, hmember, heq⟩ := List.mem_map.1 hmem
    cases heq
    exact (Value.wellFormed_object_iff.1 hv).2 name v hmember
  | _ => cases h

/-- **A patch keeps a document well-formed.** -/
theorem Patch.WellFormed.apply {p : Patch} (hp : p.WellFormed) {doc : Document}
    (hdoc : Document.WellFormed doc) : Document.WellFormed (p.apply doc) := by
  have hfield {doc : Document} (hdoc : Document.WellFormed doc) (name : String) {u : FieldUpdate}
      (hu : u.WellFormed) : Document.WellFormed (applyField doc name u) := by
    have hold : ∀ v, Bindings.get? doc name = some v → v.WellFormed := fun v hv =>
      (Value.wellFormed_object_iff.1 hdoc).2 name v (Bindings.mem_of_get? hv)
    rw [applyField, Document.change_eq]
    split
    · next v hv => exact hdoc.insert (hu.apply hold hv) name
    · exact hdoc.erase name
  unfold Patch.apply
  induction p generalizing doc with
  | nil => exact hdoc
  | cons change rest ih =>
    obtain ⟨name, u⟩ := change
    exact ih (fun name u hmem => hp name u (List.mem_cons_of_mem _ hmem))
      (hfield hdoc name (hp name u List.mem_cons_self))

/-! ## Operations -/

/-- The values that an operation carries into the database are well-formed. -/
def Action.WellFormed : Action → Prop
  | .onView _ (.add document) => document.WellFormed
  | .onView _ (.update p) => p.WellFormed
  | .onView _ (.updateValue value) => value.WellFormed
  | .onHandle _ (.update p) => p.WellFormed
  | .onHandle _ (.updateValue value) => value.WellFormed
  | .onHost (.persist value) => value.WellFormed
  | _ => True

/-- What an edit stores is well-formed. -/
def Edit.WellFormed : Edit → Prop
  | .put _ _ fields _ => Document.WellFormed fields
  | .patch _ _ p => p.WellFormed
  | _ => True

/-- What a view edits is well-formed if what it is given is, -/
theorem View.wellFormed_of_edit? {v : View} {db : Database} {view : String} {a : ViewAction}
    (ha : (Action.onView view a).WellFormed) {e : Edit} (he : v.edit? db a = some e) :
    e.WellFormed := by
  cases a with
  | add document =>
    cases document with
    | object members =>
      have hfields : Document.WellFormed (Bindings.erase members idField) :=
        Document.WellFormed.erase ha idField
      simp only [View.edit?] at he
      split at he
      · split at he
        · cases he
        · cases he
          exact hfields
      · obtain ⟨drawn, -, rfl⟩ := Option.map_eq_some_iff.1 he
        exact hfields
    | _ => cases he
  | update p => cases he; exact ha
  | updateValue value =>
    cases hp : Patch.ofValue? value with
    | error e => simp [View.edit?, hp, Except.toOption] at he
    | ok p =>
      simp only [View.edit?, hp, Except.toOption, Option.map_some, Option.some.injEq] at he
      exact he ▸ Patch.wellFormed_of_ofValue? ha hp
  | remove => cases he; trivial
  | _ => cases he

/-- and so is what a handle edits. -/
theorem Handle.wellFormed_of_edit? {h : Handle} {db : Database} {handle : String} {a : HandleAction}
    (ha : (Action.onHandle handle a).WellFormed) {e : Edit} (he : h.edit? db a = some e) :
    e.WellFormed := by
  cases a with
  | update p =>
    obtain ⟨-, he⟩ := Option.ite_none_right_eq_some.1 he
    cases he
    exact ha
  | updateValue value =>
    obtain ⟨-, he⟩ := Option.ite_none_right_eq_some.1 he
    cases hp : Patch.ofValue? value with
    | error e => simp [hp, Except.toOption] at he
    | ok p =>
      simp only [hp, Except.toOption, Option.map_some, Option.some.injEq] at he
      exact he ▸ Patch.wellFormed_of_ofValue? ha hp
  | remove =>
    obtain ⟨-, he⟩ := Option.ite_none_right_eq_some.1 he
    cases he
    trivial
  | _ => cases he

/-- **The edits of operations** store well-formed values. -/
theorem Session.wellFormed_of_edit? {x : Session} {a : Action} (ha : a.WellFormed) {s : StoreId}
    {e : Edit} (he : x.edit? a = some (s, e)) : e.WellFormed := by
  cases a with
  | onStore a =>
    obtain ⟨name, rfl | rfl⟩ :=
      Database.exists_name_of_edit? (edit?_onStore_eq_some_iff.1 he).2 <;> trivial
  | onView view a =>
    obtain ⟨v, -, -, hedit⟩ := edit?_onView_eq_some_iff.1 he
    exact View.wellFormed_of_edit? ha hedit
  | onHandle handle a =>
    obtain ⟨h, -, -, hedit⟩ := edit?_onHandle_eq_some_iff.1 he
    exact Handle.wellFormed_of_edit? ha hedit
  | _ => cases he

/-! ## Databases -/

/-- The host gives only well-formed snapshots. -/
def Host.WellFormed (h : Host) : Prop := ∀ v, h.load? = .ok (some v) → v.WellFormed

namespace Host

variable {h : Host} {v : Value}

/-- A host in a file does, whatever its file says. -/
theorem wellFormed_file (h : FileHost) : (Host.file h).WellFormed := by
  intro v hv
  simp only [Host.load?, FileHost.load?] at hv
  split at hv
  · cases hv
  · cases hv
  · split at hv
    · next hread =>
      cases hv
      exact Value.wellFormed_of_read? hread
    · cases hv
  · cases hv

theorem WellFormed.persist (hh : h.WellFormed) (hv : v.WellFormed) :
    (h.persist v).1.WellFormed := by
  cases h with
  | file h => exact wellFormed_file _
  | memory h =>
    intro w hw
    simp only [Host.persist, MemoryHost.persist] at hw
    split at hw
    · exact hh w hw
    · cases hw
      exact hv

theorem WellFormed.setFailing (hh : h.WellFormed) (failing : Bool) :
    (h.setFailing failing).WellFormed := by
  cases h with
  | file h => exact wellFormed_file _
  | memory h => exact hh

end Host

namespace Database

variable {db db' : Database} {s : StoreId} {r : RootId} {e : Edit} {v : Value}

/-- **A well-formed database**: its documents are, and what its host gives and
its stores offered. -/
structure WellFormed (db : Database) : Prop where
  documents : ∀ r id e, (id, e) ∈ db.entries r → Document.WellFormed e.fields
  host : db.host.WellFormed
  offers : ∀ o ∈ db.offers, o.snapshot.WellFormed ∧ ∃ members, o.snapshot = .object members

theorem WellFormed.congr (h : db.WellFormed) (hentries : ∀ r, db'.entries r = db.entries r)
    (hhost : db'.host = db.host) (hoffers : db'.offers = db.offers) : db'.WellFormed where
  documents r id e he := h.documents r id e (hentries r ▸ he)
  host := hhost ▸ h.host
  offers := hoffers ▸ h.offers

/-- **The snapshots of a well-formed database are well-formed.** -/
theorem WellFormed.snapshot (h : db.WellFormed) (hdb : Sound db) (hv : db.snapshot? s = some v) :
    v.WellFormed := by
  obtain ⟨names, hnames, rfl⟩ := Option.map_eq_some_iff.1 hv
  refine Value.wellFormed_object_iff.2 ⟨?_, fun name w hmem => ?_⟩
  · exact (hdb.named s names hnames).distinct.map _
  · obtain ⟨⟨name', r⟩, -, heq⟩ := List.mem_map.1 hmem
    cases heq
    refine Value.wellFormed_object_iff.2 ⟨?_, fun id w hid => ?_⟩
    · exact (hdb.distinct r).map _
    · obtain ⟨⟨id', e⟩, he, heq⟩ := List.mem_map.1 hid
      cases heq
      exact h.documents r id e he

/-- Edits keep a database well-formed, -/
theorem WellFormed.perform (h : db.WellFormed) (ha : e.Allowed db s) (he : e.WellFormed) :
    (e.perform s db).WellFormed where
  documents r id entry hentry := by
    rw [entries_perform ha] at hentry
    rcases Edit.mem_rewrite hentry with ⟨e₀, he₀, rfl | ⟨selects, p, rfl, -, rfl⟩⟩ |
      ⟨fields, words, rfl, rfl⟩
    · exact h.documents r id entry he₀
    · exact Patch.WellFormed.apply he (h.documents r id e₀ he₀)
    · exact he
  host := by cases e <;> exact h.host
  offers := by cases e <;> exact h.offers

/-- flushes do, -/
theorem WellFormed.flush (h : db.WellFormed) (hdb : Sound db) (s : StoreId) :
    (db.flush s).1.WellFormed := by
  cases hdirty : db.isDirty s with
  | false => rwa [flush_of_clean hdirty]
  | true =>
    obtain ⟨v, hv, -, hhost, hoffers, -⟩ := flush_of_dirty hdb hdirty
    have hsnapshot : v.WellFormed := h.snapshot hdb hv
    refine ⟨fun r id e he => h.documents r id e ?_, ?_, fun o ho => ?_⟩
    · rwa [sameData_flush.entries] at he
    · rw [hhost]
      exact h.host.persist hsnapshot
    · rw [hoffers] at ho
      rcases List.mem_append.1 ho with ho | ho
      · exact h.offers o ho
      · cases List.mem_singleton.1 ho
        obtain ⟨names, -, rfl⟩ := Option.map_eq_some_iff.1 hv
        exact ⟨hsnapshot, _, rfl⟩

theorem WellFormed.upkept (h : db.WellFormed) (hdb : Sound db) (hf : Upkept db db') :
    db'.WellFormed := by
  have hboth : Sound db' ∧ db'.WellFormed := by
    refine hf.induction (P := fun db => Sound db ∧ db.WellFormed) ⟨hdb, h⟩ (fun db s ih => ?_)
      (fun db s signal ih => ?_) fun db time ih => ?_
    · exact ⟨ih.1.flush s, ih.2.flush ih.1 s⟩
    · exact ⟨ih.1.tell s signal, ih.2.congr (fun _ => rfl) rfl rfl⟩
    · exact ⟨ih.1.setClock time, ih.2.congr (fun _ => rfl) rfl rfl⟩
  exact hboth.2

/-! ### Loading -/

theorem Entries.wellFormed_loadOnto {entries : Entries} (generation : Nat)
    {members : List (String × Value)}
    (hentries : ∀ id e, (id, e) ∈ entries → Document.WellFormed e.fields)
    (hmembers : ∀ k v, (k, v) ∈ members → v.WellFormed) :
    ∀ id e, (id, e) ∈ (Entries.loadOnto entries generation members).1 →
      Document.WellFormed e.fields := by
  fun_induction Entries.loadOnto entries generation members with
  | case1 entries generation => exact hentries
  | case2 entries generation fields rest ih =>
    exact ih hentries fun k v hmem => hmembers k v (List.mem_cons_of_mem _ hmem)
  | case3 entries generation id fields rest hid ih =>
    refine ih (fun id' e he => ?_) fun k v hmem => hmembers k v (List.mem_cons_of_mem _ hmem)
    rcases Bindings.mem_insert he with he | ⟨-, rfl⟩
    · exact hentries id' e he
    · have hfields : Document.WellFormed fields := hmembers id _ List.mem_cons_self
      exact hfields.erase idField
  | case4 entries generation entry rest hobj ih =>
    exact ih hentries fun k v hmem => hmembers k v (List.mem_cons_of_mem _ hmem)

theorem WellFormed.addRoot (h : db.WellFormed) {entries : Entries}
    (hentries : ∀ id e, (id, e) ∈ entries → Document.WellFormed e.fields) :
    (db.addRoot entries).2.WellFormed where
  documents r id e he := by
    rw [entries_addRoot] at he
    split at he
    · exact hentries id e he
    · exact h.documents r id e he
  host := h.host
  offers := h.offers

theorem WellFormed.loadCollections (h : db.WellFormed) (names : Bindings RootId)
    {members : List (String × Value)} (hmembers : ∀ k v, (k, v) ∈ members → v.WellFormed) :
    (loadCollections names db members).2.WellFormed := by
  fun_induction Database.loadCollections names db members with
  | case1 names db => exact h
  | case2 names db made documents rest entries generation hload root db' hadd ih =>
    refine ih ?_ fun k v hmem => hmembers k v (List.mem_cons_of_mem _ hmem)
    obtain ⟨rfl, rfl⟩ := Prod.mk.inj hadd
    have hdocuments := (Value.wellFormed_object_iff.1 (hmembers made _ List.mem_cons_self)).2
    have hentries : ∀ id e, (id, e) ∈ (Entries.load db.generation documents).1 →
        Document.WellFormed e.fields :=
      Entries.wellFormed_loadOnto db.generation (by simp) hdocuments
    rw [hload] at hentries
    have hnumbered : Database.WellFormed { db with generation } := h.congr (fun _ => rfl) rfl rfl
    exact hnumbered.addRoot hentries
  | case3 names db entry rest hobj ih =>
    exact ih h fun k v hmem => hmembers k v (List.mem_cons_of_mem _ hmem)

/-- **Initializing a store keeps a database well-formed**, since the host gives
nothing else. -/
theorem WellFormed.init (h : db.WellFormed) (hi : db.init s = .ok db') : db'.WellFormed := by
  rcases init_eq_ok hi with ⟨-, rfl⟩ | ⟨snapshot, names, db₁, -, hload, hsnapshot, rfl⟩
  · exact h
  have hloaded : db₁.WellFormed := by
    unfold loadSnapshot at hsnapshot
    split at hsnapshot
    · cases hsnapshot; exact h
    · cases hsnapshot; exact h
    · next members =>
      have hmembers := (Value.wellFormed_object_iff.1 (h.host _ hload)).2
      have hall := h.loadCollections [] hmembers
      rwa [Except.ok.inj hsnapshot] at hall
    · cases hsnapshot
  exact hloaded.congr (fun _ => rfl) rfl rfl

end Database

namespace Session

open Database

variable {x : Session} {a : Action} {actions : List Action}

theorem wellFormed_effect (hx : x.Sound) (h : x.database.WellFormed) (ha : a.WellFormed) :
    (x.effect a).WellFormed := by
  rcases effect_cases x a with ⟨s, e, he, heq⟩ | ⟨-, heq | ⟨s, rfl, -, hinit⟩ | ⟨ha', rfl, heq⟩⟩
  · rw [heq]
    have hperformed := h.perform (hx.allowed he) (wellFormed_of_edit? ha he)
    exact hperformed.congr sameData_mark.entries rfl rfl
  · rwa [heq]
  · exact h.init hinit
  · rw [heq]
    refine ⟨h.documents, ?_, h.offers⟩
    cases ha' with
    | persist value => exact h.host.persist ha
    | setFailing failing => exact h.host.setFailing failing

/-- **A step keeps the database well-formed.** -/
theorem wellFormed_step (hx : x.Sound) (h : x.database.WellFormed) (ha : a.WellFormed) :
    (x.step a).1.database.WellFormed := by
  rcases database_step hx a with hf | ⟨config, db, rfl, hf, hinit⟩
  · exact (wellFormed_effect hx h ha).upkept (sound_effect hx a).1 hf
  · have hadded : (db.addStore config).2.WellFormed :=
      (h.upkept hx.database hf).congr (fun _ => rfl) rfl rfl
    exact hadded.init hinit

theorem wellFormed_start {host : Host} (hh : host.WellFormed) (config : Config)
    (words : List UInt32) : (start host config words).database.WellFormed where
  documents r id e he := by cases r <;> cases he
  host := hh
  offers o ho := by cases ho

/-- **Every moment of a run over well-formed values is well-formed.** -/
theorem wellFormed_moment (hx : x.Sound) (h : x.database.WellFormed)
    (ha : ∀ a ∈ actions, a.WellFormed) (t : Nat) : (x.moment actions t).database.WellFormed := by
  have hboth := moment_induction (P := fun x => x.Sound ∧ x.database.WellFormed) ⟨hx, h⟩
    (fun _ a hmem h => ⟨h.1.step a, wellFormed_step h.1 h.2 (ha a hmem)⟩) t
  exact hboth.2

end Session

end DocumentStore
