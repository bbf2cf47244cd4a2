import DocumentStore.Proofs.WriteBack

/-!
# Twins — sessions with the same data

Two sessions are twins if they differ at most in what concerns persisting:
in the modes, marks and workers of their stores, in what was offered, in their
hosts and in their clocks (`Session.Twin`). Whatever reads or changes the data does the same in
both (`Alike`), since none of it looks at the rest; only a store that is
initialized asks its host. So an operation answers twins alike and leaves
twins (`Twin.step`), and an operation that persists, or changes what a host
accepts, leaves a twin of the session it is performed on (`twin_upkeep`).
Two runs that differ only in operations of the latter kind come to twins and
are told the same (`twin_run`).
-/

namespace DocumentStore

/-! ## Answers that are alike -/

/-- Two answers are both refused for the same reason, or neither is and what
they give is related. -/
inductive Alike {α β : Type} (R : α → β → Prop) : Except StoreError α → Except StoreError β → Prop
  | ok {a : α} {b : β} (h : R a b) : Alike R (.ok a) (.ok b)
  | error (e : StoreError) : Alike R (.error e) (.error e)

theorem Alike.bind {α β γ δ : Type} {R : α → β → Prop} {S : γ → δ → Prop}
    {answer : Except StoreError α} {answer' : Except StoreError β} {next : α → Except StoreError γ}
    {next' : β → Except StoreError δ} (h : Alike R answer answer')
    (hnext : ∀ a b, R a b → Alike S (next a) (next' b)) :
    Alike S (answer >>= next) (answer' >>= next') := by
  cases h with
  | ok h => exact hnext _ _ h
  | error e => exact .error e

theorem Alike.refl {α : Type} {R : α → α → Prop} (hR : ∀ a, R a a)
    (answer : Except StoreError α) : Alike R answer answer := by
  cases answer with
  | ok a => exact .ok (hR a)
  | error e => exact .error e

namespace Database

variable {db db' : Database} {s : StoreId} {r : RootId}

/-! ## The same data stays the same -/

namespace SameData

theorem putDocument (h : SameData db db') (r : RootId) (id : String) (fields : Document) :
    SameData (db.putDocument r id fields) (db'.putDocument r id fields) := by
  have hentries : (db'.entries r).insert id ⟨db'.generation, fields⟩ =
      (db.entries r).insert id ⟨db.generation, fields⟩ := by rw [h.entries, h.generation]
  have hset := h.setEntries r ((db.entries r).insert id ⟨db.generation, fields⟩)
  unfold Database.putDocument
  rw [hentries]
  exact ⟨hset.roots, congrArg (· + 1) h.generation, hset.words, hset.length, hset.collections⟩

theorem withWords (h : SameData db db') (words : List UInt32) :
    SameData { db with words } { db' with words } :=
  ⟨h.roots, h.generation, rfl, h.length, h.collections⟩

theorem withGeneration (h : SameData db db') (generation : Nat) :
    SameData { db with generation } { db' with generation } :=
  ⟨h.roots, rfl, h.words, h.length, h.collections⟩

theorem addRoot (h : SameData db db') (entries : Entries) :
    (db'.addRoot entries).1 = (db.addRoot entries).1 ∧
      SameData (db.addRoot entries).2 (db'.addRoot entries).2 :=
  ⟨congrArg List.length h.roots, congrArg (· ++ [entries]) h.roots, h.generation, h.words,
    h.length, h.collections⟩

/-- Names given to a store of the same data. -/
theorem rename (h : SameData db db') (s : StoreId) (names : Bindings RootId) :
    SameData (db.modifyStore s fun store => { store with collections := some names })
      (db'.modifyStore s fun store => { store with collections := some names }) where
  roots := h.roots
  generation := h.generation
  words := h.words
  length := by rw [modifyStore, modifyStore, List.length_modify, List.length_modify, h.length]
  collections t := by
    rw [collections_modifyStore, collections_modifyStore]
    by_cases hst : s = t
    · -- what the store was called before does not count, only whether it is there
      simp only [if_pos hst]
      rcases Nat.lt_or_ge t db.stores.length with ht | ht
      · rw [List.getElem?_eq_getElem ht, List.getElem?_eq_getElem (h.length ▸ ht)]
        rfl
      · rw [List.getElem?_eq_none ht, List.getElem?_eq_none (h.length ▸ ht)]
    · simp only [if_neg hst]
      exact h.collections t

/-- The same collections are taken over beside the same data. -/
theorem loadCollections (h : SameData db db') (names : Bindings RootId)
    (members : List (String × Value)) :
    (Database.loadCollections names db' members).1 = (Database.loadCollections names db members).1 ∧
      SameData (Database.loadCollections names db members).2
        (Database.loadCollections names db' members).2 := by
  induction members generalizing names db db' with
  | nil => exact ⟨rfl, h⟩
  | cons member rest ih =>
    obtain ⟨name, value⟩ := member
    cases value with
    | object members =>
      simp only [Database.loadCollections, h.generation]
      obtain ⟨hroot, hadd⟩ := (h.withGeneration (Entries.load db.generation members).2).addRoot
        (Entries.load db.generation members).1
      rw [hroot]
      exact ih hadd _
    | _ => exact ih h names

theorem loadSnapshot (h : SameData db db') (snapshot : Option Value) :
    Alike (fun a b => b.1 = a.1 ∧ SameData a.2 b.2) (db.loadSnapshot snapshot)
      (db'.loadSnapshot snapshot) := by
  cases snapshot with
  | none => exact .ok ⟨rfl, h⟩
  | some value =>
    cases value with
    | null => exact .ok ⟨rfl, h⟩
    | object members => exact .ok (h.loadCollections [] members)
    | _ => exact .error _

/-- **Initializing** does the same if the hosts hold the same. -/
theorem init (h : SameData db db')
    (hload : db.collections? s = none → db'.host.load? = db.host.load?) :
    Alike SameData (db.init s) (db'.init s) := by
  unfold Database.init
  rw [h.collections]
  cases hs : db.collections? s with
  | some names => exact .ok h
  | none =>
    rw [hload hs]
    refine (Alike.refl (R := Eq) (fun _ => rfl) _).bind ?_
    rintro snapshot _ rfl
    refine (h.loadSnapshot snapshot).bind ?_
    rintro ⟨_, db₁⟩ ⟨names, db₂⟩ ⟨rfl, h₁⟩
    exact .ok (h₁.rename s names)

theorem createCollection (h : SameData db db') (s : StoreId) (name : String) :
    Alike (fun a b => b.1 = a.1 ∧ SameData a.2 b.2) (db.createCollection s name)
      (db'.createCollection s name) := by
  unfold Database.createCollection
  rw [h.collections]
  cases db.collections? s with
  | none => exact .error _
  | some names =>
    dsimp only
    split
    · exact .error _
    · obtain ⟨hroot, hadd⟩ := h.addRoot []
      rw [hroot]
      exact .ok ⟨rfl, (hadd.rename s _).touch s⟩

theorem removeCollection (h : SameData db db') (s : StoreId) (name : String) :
    Alike (fun a b => b.1 = a.1 ∧ SameData a.2 b.2) (db.removeCollection s name)
      (db'.removeCollection s name) := by
  unfold Database.removeCollection
  rw [h.collections]
  cases db.collections? s with
  | none => exact .error _
  | some names => exact .ok ⟨rfl, (h.rename s _).touch s⟩

theorem collection? (h : SameData db db') (s : StoreId) (name : String) :
    db'.collection? s name = db.collection? s name := by
  rw [Database.collection?, Database.collection?, h.collections]

theorem collectionNames (h : SameData db db') (s : StoreId) :
    db'.collectionNames s = db.collectionNames s := by
  rw [Database.collectionNames, Database.collectionNames, h.collections]

end SameData

end Database

/-! ## Views and handles of the same data -/

namespace View

open Database

variable {db db' : Database}

theorem visible_congr (h : SameData db db') (v : View) : v.visible db' = v.visible db := by
  rw [visible, visible, h.entries]

theorem info_congr (h : SameData db db') (v : View) : v.info db' = v.info db := by
  rw [info, info, count, count, visible_congr h]

theorem get_congr (h : SameData db db') (v : View) : v.get db' = v.get db := by
  rw [get, get, visible_congr h]

theorem filter_congr (h : SameData db db') (v : View) (f : Filter) :
    v.filter db' f = v.filter db f := by
  rw [filter, filter, visible_congr h]

theorem filterValue_congr (h : SameData db db') (v : View) (value : Value) :
    v.filterValue db' value = v.filterValue db value := by
  unfold filterValue
  simp only [v.filter_congr h]

/-- An addition draws the same id. -/
theorem add_congr (h : SameData db db') (v : View) (document : Value) :
    Alike (fun a b => b.1 = a.1 ∧ SameData a.2 b.2) (v.add db document) (v.add db' document) := by
  cases document with
  | object members =>
    simp only [add, h.entries, h.words]
    split
    · split
      · exact .error _
      · exact .ok ⟨rfl, (h.putDocument _ _ _).touch _⟩
    · split
      · exact .ok ⟨rfl, ((h.withWords _).putDocument _ _ _).touch _⟩
      · exact .error _
  | _ => exact .error _

theorem update_congr (h : SameData db db') (v : View) (p : Patch) :
    (v.update db' p).1 = (v.update db p).1 ∧ SameData (v.update db p).2 (v.update db' p).2 := by
  unfold update
  rw [h.entries]
  exact ⟨rfl, (h.setEntries _ _).touch _⟩

theorem updateValue_congr (h : SameData db db') (v : View) (value : Value) :
    Alike (fun a b => b.1 = a.1 ∧ SameData a.2 b.2) (v.updateValue db value)
      (v.updateValue db' value) := by
  unfold updateValue
  cases Patch.ofValue? value with
  | error e => exact .error e
  | ok p => exact .ok (v.update_congr h p)

theorem remove_congr (h : SameData db db') (v : View) :
    (v.remove db').1 = (v.remove db).1 ∧ SameData (v.remove db).2 (v.remove db').2 := by
  unfold remove
  rw [h.entries]
  exact ⟨rfl, (h.setEntries _ _).touch _⟩

end View

namespace Handle

open Database

variable {db db' : Database}

theorem entry?_congr (h : SameData db db') (d : Handle) : d.entry? db' = d.entry? db := by
  rw [ entry?, entry?, h.entries]

theorem isPresent_congr (h : SameData db db') (d : Handle) : d.isPresent db' = d.isPresent db := by
  rw [isPresent, isPresent, entry?_congr h]

theorem get?_congr (h : SameData db db') (d : Handle) : d.get? db' = d.get? db := by
  rw [get?, get?, entry?_congr h]

theorem update_congr (h : SameData db db') (d : Handle) (p : Patch) :
    Alike SameData (d.update db p) (d.update db' p) := by
  unfold update
  rw [entry?_congr h, h.entries]
  cases d.entry? db with
  | none => exact .error _
  | some e => exact .ok ((h.setEntries _ _).touch _)

theorem updateValue_congr (h : SameData db db') (d : Handle) (value : Value) :
    Alike SameData (d.updateValue db value) (d.updateValue db' value) := by
  unfold updateValue
  cases Patch.ofValue? value with
  | error e => exact .error e
  | ok p => exact d.update_congr h p

theorem remove_congr (h : SameData db db') (d : Handle) :
    (d.remove db').1 = (d.remove db).1 ∧ SameData (d.remove db).2 (d.remove db').2 := by
  unfold remove
  rw [isPresent_congr h, h.entries]
  split
  · exact ⟨rfl, (h.setEntries _ _).touch _⟩
  · exact ⟨rfl, h⟩

end Handle

/-! ## Operations that only persist -/

namespace Action

/-- Whether an operation only persists or waits, or changes what the host
accepts. -/
def isUpkeep : Action → Bool
  | .onStore .flush => true
  | .onStore .settle => true
  | .onHost (.setFailing _) => true
  | .wait _ => true
  | _ => false

/-- Whether what an operation answers is about the data: not about what was
persisted, nor about how the store was made. -/
def tellsData : Action → Bool
  | .onStore .config => false
  | .onStore .inspect => false
  | a => !a.isUpkeep

end Action

namespace Session

open Database

variable {x y : Session} {s : StoreId} {a : Action}

/-- **Two sessions with the same data**, and the same views and handles of
it. -/
structure Twin (x y : Session) : Prop where
  data : SameData x.database y.database
  store : y.store = x.store
  views : y.views = x.views
  handles : y.handles = x.handles

namespace Twin

theorem refl (x : Session) : Twin x x := ⟨SameData.refl _, rfl, rfl, rfl⟩

theorem symm (h : Twin x y) : Twin y x :=
  ⟨h.data.symm, h.store.symm, h.views.symm, h.handles.symm⟩

theorem trans {z : Session} (h : Twin x y) (h' : Twin y z) : Twin x z :=
  ⟨h.data.trans h'.data, h'.store.trans h.store, h'.views.trans h.views,
    h'.handles.trans h.handles⟩

/-- Other databases with the same data make twins again. -/
theorem withDatabase (h : Twin x y) {db db' : Database} (hdata : SameData db db') :
    Twin { x with database := db } { y with database := db' } :=
  ⟨hdata, h.store, h.views, h.handles⟩

theorem release (h : Twin x y) : Twin x.release y.release := by
  refine ⟨?_, h.store, h.views, h.handles⟩
  exact ((upkept_release x).sameData.symm.trans h.data).trans (upkept_release y).sameData

/-- Both did the same, and were told so if it is about the data. -/
def Same (a : Action) (done done' : Reply × Session) : Prop :=
  Twin done.2 done'.2 ∧ (a.tellsData = true → done'.1 = done.1)

theorem bindView (h : Twin x y) (bind : String) (v : View) :
    Same a (x.bindView bind v) (y.bindView bind v) := by
  refine ⟨⟨h.data, h.store, congrArg (Bindings.insert · bind v) h.views, h.handles⟩, fun _ => ?_⟩
  exact congrArg (fun info => Reply.view (some info)) (v.info_congr h.data)

theorem bindHandle (h : Twin x y) (bind : String) (d : Handle) :
    Same a (x.bindHandle bind d) (y.bindHandle bind d) := by
  refine ⟨⟨h.data, h.store, h.views, congrArg (Bindings.insert · bind d) h.handles⟩, fun _ => ?_⟩
  exact congrArg (Reply.handle d.id) (d.isPresent_congr h.data)

/-- Both were told the same and stay as they are. -/
theorem same {reply reply' : Reply} (h : Twin x y) (hreply : reply' = reply) :
    Same a (reply, x) (reply', y) :=
  ⟨h, fun _ => hreply⟩

theorem onStore (h : Twin x y) {a : StoreAction} (ha : (Action.onStore a).isUpkeep = false)
    (hload : x.database.collections? s = none →
      y.database.host.load? = x.database.host.load?) :
    Alike (Same (.onStore a)) (x.onStore s a) (y.onStore s a) := by
  cases a with
  | init =>
    refine (h.data.init hload).bind fun db db' hdata => ?_
    exact .ok ((h.withDatabase hdata).same rfl)
  | createCollection name bind =>
    refine (h.data.createCollection s name).bind ?_
    rintro ⟨_, db⟩ ⟨v, db'⟩ ⟨rfl, hdata⟩
    exact .ok ((h.withDatabase hdata).bindView bind v)
  | removeCollection name =>
    refine (h.data.removeCollection s name).bind ?_
    rintro ⟨existed, db⟩ ⟨_, db'⟩ ⟨rfl, hdata⟩
    exact .ok ((h.withDatabase hdata).same rfl)
  | collection name bind =>
    simp only [Session.onStore, h.data.collection?]
    refine (Alike.refl (R := Eq) (fun _ => rfl) _).bind ?_
    rintro found _ rfl
    cases found with
    | none => exact .ok (h.same rfl)
    | some v => exact .ok (h.bindView bind v)
  | collectionNames =>
    simp only [Session.onStore, h.data.collectionNames]
    refine (Alike.refl (R := Eq) (fun _ => rfl) _).bind ?_
    rintro names _ rfl
    exact .ok (h.same rfl)
  | isInitialized => exact .ok (h.same (by rw [h.data.collections]))
  | snapshot => exact .ok (h.same (by rw [h.data.snapshot]))
  | config => exact .ok ⟨h, fun htells => by cases htells⟩
  | inspect => exact .ok ⟨h, fun htells => by cases htells⟩
  | flush => cases ha
  | settle => cases ha

theorem onView (h : Twin x y) (view : String) (v : View) (a : ViewAction) :
    Alike (Same (.onView view a)) (x.onView v a) (y.onView v a) := by
  cases a with
  | add document =>
    refine (v.add_congr h.data document).bind ?_
    rintro ⟨id, db⟩ ⟨_, db'⟩ ⟨rfl, hdata⟩
    exact .ok ((h.withDatabase hdata).same rfl)
  | update p =>
    obtain ⟨hn, hdata⟩ := v.update_congr h.data p
    exact .ok ((h.withDatabase hdata).same (congrArg Reply.number hn))
  | updateValue value =>
    refine (v.updateValue_congr h.data value).bind ?_
    rintro ⟨n, db⟩ ⟨_, db'⟩ ⟨rfl, hdata⟩
    exact .ok ((h.withDatabase hdata).same rfl)
  | remove =>
    obtain ⟨hn, hdata⟩ := v.remove_congr h.data
    exact .ok ((h.withDatabase hdata).same (congrArg Reply.number hn))
  | filter f bind =>
    simp only [Session.onView, v.filter_congr h.data]
    exact .ok (h.bindView bind _)
  | filterValue value bind =>
    simp only [Session.onView, v.filterValue_congr h.data]
    refine (Alike.refl (R := Eq) (fun _ => rfl) _).bind ?_
    rintro w _ rfl
    exact .ok (h.bindView bind w)
  | limit n bind => exact .ok (h.bindView bind _)
  | skip n bind => exact .ok (h.bindView bind _)
  | orderBy field direction bind => exact .ok (h.bindView bind _)
  | handle id bind => exact .ok (h.bindHandle bind _)
  | info => exact .ok (h.same (by rw [v.info_congr h.data]))
  | inspect => exact .ok (h.same rfl)
  | count => exact .ok (h.same (by rw [View.count, View.count, v.visible_congr h.data]))
  | get => exact .ok (h.same (by rw [v.get_congr h.data]))

theorem onHandle (h : Twin x y) (handle : String) (d : Handle) (a : HandleAction) :
    Alike (Same (.onHandle handle a)) (x.onHandle d a) (y.onHandle d a) := by
  cases a with
  | get => exact .ok (h.same (by rw [d.get?_congr h.data]))
  | isPresent => exact .ok (h.same (by rw [d.isPresent_congr h.data]))
  | inspect => exact .ok (h.same rfl)
  | update p =>
    refine (d.update_congr h.data p).bind fun db db' hdata => ?_
    exact .ok ((h.withDatabase hdata).same rfl)
  | updateValue value =>
    refine (d.updateValue_congr h.data value).bind fun db db' hdata => ?_
    exact .ok ((h.withDatabase hdata).same rfl)
  | remove =>
    obtain ⟨hexisted, hdata⟩ := d.remove_congr h.data
    exact .ok ((h.withDatabase hdata).same (congrArg Reply.flag hexisted))

/-- What is concluded from answers that are alike. -/
theorem conclude (h : Twin x y) {answer answer' : Except StoreError (Reply × Session)}
    (halike : Alike (Same a) answer answer') :
    Twin (x.conclude answer).1 (y.conclude answer').1 ∧
      (a.tellsData = true → (y.conclude answer').2 = (x.conclude answer).2) := by
  cases halike with
  | ok hsame => exact ⟨hsame.1.release, fun htells => congrArg Except.ok (hsame.2 htells)⟩
  | error e => exact ⟨h, fun _ => rfl⟩

/-- **An operation leaves twins**, and what it answers about the data it
answers both. -/
theorem step (h : Twin x y) (ha : a.IsSolo) (hupkeep : a.isUpkeep = false)
    (hload : ∀ s, x.store = some s → x.database.collections? s = none →
      y.database.host.load? = x.database.host.load?) :
    Twin (x.step a).1 (y.step a).1 ∧ (a.tellsData = true → (y.step a).2 = (x.step a).2) := by
  cases a with
  | onStore a =>
    simp only [Session.step, h.store]
    cases hs : x.store with
    | none => exact ⟨h, fun _ => rfl⟩
    | some s => exact h.conclude (h.onStore hupkeep (hload s hs))
  | onView view a =>
    simp only [Session.step, h.views]
    cases hv : x.views.get? view with
    | none => exact ⟨h, fun _ => rfl⟩
    | some v => exact h.conclude (h.onView view v a)
  | onHandle handle a =>
    simp only [Session.step, h.handles]
    cases hh : x.handles.get? handle with
    | none => exact ⟨h, fun _ => rfl⟩
    | some d => exact h.conclude (h.onHandle handle d a)
  | onHost a =>
    cases a with
    | persist value => exact ha.elim
    | setFailing failing => cases hupkeep
  | drop =>
    have hdropped : Twin { x with store := none, views := [], handles := [] }
        { y with store := none, views := [], handles := [] } := ⟨h.data, rfl, rfl, rfl⟩
    exact ⟨hdropped.release, fun _ => rfl⟩
  | reopen config => exact ha.elim
  | wait nanos => cases hupkeep

end Twin

/-- **An operation that only persists leaves a twin** of the session. -/
theorem twin_upkeep (x : Session) (ha : a.isUpkeep = true) : Twin x (x.step a).1 := by
  have hupkept {db : Database} (hf : Upkept x.database db) :
      Twin x ({ x with database := db } : Session).release :=
    ⟨hf.sameData.trans (upkept_release { x with database := db }).sameData, rfl, rfl, rfl⟩
  cases a with
  | onStore a =>
    simp only [Session.step]
    cases x.store with
    | none => exact Twin.refl x
    | some s =>
      cases a with
      | flush => exact hupkept upkept_flush
      | settle => exact hupkept (upkept_awaitTimer.trans upkept_flush)
      | _ => cases ha
  | onHost a =>
    cases a with
    | persist value => cases ha
    | setFailing failing => exact ⟨⟨rfl, rfl, rfl, rfl, fun _ => rfl⟩, rfl, rfl, rfl⟩
  | wait nanos => exact ⟨(upkept_elapse _).sameData, rfl, rfl, rfl⟩
  | _ => cases ha

end Session

/-! ## Before the store is initialized -/

namespace Database

variable {db db' : Database} {s : StoreId}

/-- The flush of a store that is not initialized does not get to the host. -/
theorem host_flush_of_none (hnone : db.collections? s = none) : (db.flush s).1.host = db.host := by
  have hclear : SameData db (db.modifyStore s fun store => { store with dirty := false }) :=
    sameData_modifyStore fun _ => rfl
  have hsnapshot : (db.modifyStore s fun store => { store with dirty := false }).snapshot? s =
      none := by
    rw [hclear.snapshot, snapshot?, hnone]
    rfl
  unfold flush
  split
  · dsimp only
    rw [hsnapshot]
    rfl
  · rfl

/-- So as long as no store is, upkeep leaves the host as it is. -/
theorem host_of_upkept (hf : Upkept db db') (hnone : ∀ s, db.collections? s = none) :
    db'.host = db.host := by
  have hboth : SameData db db' ∧ db'.host = db.host := by
    refine hf.induction (P := fun d => SameData db d ∧ d.host = db.host) ⟨.refl db, rfl⟩
      (fun d s ⟨hdata, hhost⟩ => ?_) (fun d s signal ⟨hdata, hhost⟩ => ?_)
      fun d time ⟨hdata, hhost⟩ => ?_
    · have hd : d.collections? s = none := (hdata.collections s).trans (hnone s)
      exact ⟨hdata.trans sameData_flush, (host_flush_of_none hd).trans hhost⟩
    · exact ⟨hdata.trans sameData_tell, hhost⟩
    · exact ⟨hdata.trans (sameData_clock time), hhost⟩
  exact hboth.2

end Database

theorem Host.load?_setFailing (h : Host) (failing : Bool) :
    (h.setFailing failing).load? = h.load? := by
  cases h <;> rfl

namespace Session

open Database

variable {x y : Session} {a : Action} {loaded : Except StoreError (Option Value)}

/-- The work of an operation of one store leaves what the host gives to
load. -/
theorem load?_effect (ha : a.IsSolo) : (x.effect a).host.load? = x.database.host.load? := by
  rcases effect_cases x a with ⟨s, e, -, heq⟩ | ⟨-, heq | ⟨s, rfl, -, hinit⟩ | ⟨h, rfl, heq⟩⟩
  · rw [heq]
    cases e <;> rfl
  · rw [heq]
  · rw [host_init hinit]
  · rw [heq]
    cases h with
    | persist value => exact ha.elim
    | setFailing failing => exact Host.load?_setFailing _ failing

/-- **A session with one store**, whose host gives to load what it gave, as
long as the store is not initialized. -/
structure Solitary (loaded : Except StoreError (Option Value)) (x : Session) : Prop where
  sound : x.Sound
  one : x.database.stores.length = 1
  store : x.store = some 0 ∨ x.store = none
  load : (∀ s, x.database.collections? s = none) → x.database.host.load? = loaded

theorem solitary_start (host : Host) (config : Config) (words : List UInt32) :
    (start host config words).Solitary host.load? :=
  ⟨sound_start host config words, rfl, .inl rfl, fun _ => rfl⟩

theorem Solitary.step (hx : x.Solitary loaded) (ha : a.IsSolo) :
    (x.step a).1.Solitary loaded := by
  have hupkept := step_effect hx.sound ha.ne_reopen
  have hevolves := evolves_step hx.sound a
  refine ⟨hx.sound.step a, ?_, ?_, fun hnone => ?_⟩
  · rw [hupkept.sameData.length, (prepares_effect hx.sound hx.one hx.store ha).length, hx.one]
  · rcases store_step hx.sound ha.ne_reopen with hsame | hnone
    · rw [hsame]; exact hx.store
    · exact .inr hnone
  · have hbefore (s : StoreId) : x.database.collections? s = none := by
      by_contra hsome
      have := hevolves.initialized s (Option.isSome_iff_ne_none.2 hsome)
      rw [hnone s] at this
      cases this
    have heffect (s : StoreId) : (x.effect a).collections? s = none := by
      rw [← hupkept.sameData.collections, hnone]
    rw [host_of_upkept hupkept heffect, load?_effect ha, hx.load hbefore]

/-- Twins with one store each load the same. -/
theorem Solitary.load?_eq (hx : x.Solitary loaded) (hy : y.Solitary loaded) (h : Twin x y)
    {s : StoreId} (hs : x.store = some s) (hnone : x.database.collections? s = none) :
    y.database.host.load? = x.database.host.load? := by
  have hzero : s = 0 := by
    rcases hx.store with h0 | h0
    · exact Option.some.inj (hs.symm.trans h0)
    · rw [h0] at hs; cases hs
  have hall (t : StoreId) : x.database.collections? t = none := by
    rcases Nat.eq_zero_or_pos t with rfl | ht
    · exact hzero ▸ hnone
    · -- there is no other store
      rw [collections?, List.getElem?_eq_none (by rw [hx.one]; exact ht)]
      rfl
  rw [hx.load hall, hy.load fun t => by rw [h.data.collections, hall]]

/-! ## Two runs -/

/-- The operations of a run that do more than to persist. -/
def dataOperations (actions : List Action) : List Action := actions.filter fun a => !a.isUpkeep

/-- What a run is told about the data. -/
def told (x : Session) (actions : List Action) : List (Except Refusal Reply) :=
  ((actions.zip (x.run actions).2).filter fun answered => answered.1.tellsData).map Prod.snd

theorem told_cons (x : Session) (a : Action) (rest : List Action) : x.told (a :: rest) =
    if a.tellsData then (x.step a).2 :: (x.step a).1.told rest else (x.step a).1.told rest := by
  simp only [told, run, List.zip_cons_cons, List.filter_cons]
  split <;> rfl

/-- **A run does to the data what a run does without the operations that only
persist**, from a twin, and is told the same. -/
theorem twin_run (hx : x.Solitary loaded) (hy : y.Solitary loaded) (h : Twin x y)
    {actions : List Action} (ha : ∀ a ∈ actions, a.IsSolo) :
    Twin (x.run actions).1 (y.run (dataOperations actions)).1 ∧
      y.told (dataOperations actions) = x.told actions := by
  induction actions generalizing x y with
  | nil => exact ⟨h, rfl⟩
  | cons a rest ih =>
    have hsolo := ha a List.mem_cons_self
    have hrest : ∀ b ∈ rest, b.IsSolo := fun b hb => ha b (List.mem_cons_of_mem _ hb)
    have hstep := hx.step hsolo
    cases hupkeep : a.isUpkeep with
    | true =>
      -- the other run does without it, and stays a twin
      have hsilent : a.tellsData = false := by
        cases a with
        | onStore a => cases a <;> first | rfl | cases hupkeep
        | onHost a => cases a <;> first | rfl | cases hupkeep
        | wait nanos => rfl
        | _ => cases hupkeep
      have hdata : dataOperations (a :: rest) = dataOperations rest := by
        simp [dataOperations, hupkeep]
      obtain ⟨hrun, htold⟩ := ih hstep hy ((twin_upkeep x hupkeep).symm.trans h) hrest
      rw [hdata, told_cons, hsilent]
      exact ⟨hrun, htold⟩
    | false =>
      have hdata : dataOperations (a :: rest) = a :: dataOperations rest := by
        simp [dataOperations, hupkeep]
      obtain ⟨htwin, hanswer⟩ := h.step hsolo hupkeep fun s hs hnone => hx.load?_eq hy h hs hnone
      obtain ⟨hrun, htold⟩ := ih hstep (hy.step hsolo) htwin hrest
      rw [hdata, told_cons, told_cons, htold]
      refine ⟨hrun, ?_⟩
      split
      · next htells => rw [hanswer htells]
      · rfl

/-- **Persistence never shows.** Two sessions on hosts that hold the same, in
whatever modes, perform runs that differ in operations that only persist or
change what a host accepts. After any two beginnings of the runs that have
the other operations in common, both were told the same about the data, and
every store has the same snapshot in both. -/
theorem persistence_never_shows (host host' : Host) (config config' : Config) (words : List UInt32)
    (hload : host'.load? = host.load?) (actions actions' : List Action)
    (ha : ∀ a ∈ actions, a.IsSolo) (ha' : ∀ a ∈ actions', a.IsSolo) (t t' : Nat)
    (hsame : dataOperations (actions'.take t') = dataOperations (actions.take t)) :
    let x := start host config words
    let x' := start host' config' words
    x'.told (actions'.take t') = x.told (actions.take t) ∧
      ∀ s, (x'.moment actions' t').database.snapshot? s =
        (x.moment actions t).database.snapshot? s := by
  intro x x'
  have hx : x.Solitary host.load? := solitary_start host config words
  have hx' : x'.Solitary host.load? := hload ▸ solitary_start host' config' words
  have htake : ∀ a ∈ actions.take t, a.IsSolo := fun a hmem => ha a (List.mem_of_mem_take hmem)
  have htake' : ∀ a ∈ actions'.take t', a.IsSolo := fun a hmem => ha' a (List.mem_of_mem_take hmem)
  have hbegin : Twin x' x := ⟨⟨rfl, rfl, rfl, rfl, fun s => by cases s <;> rfl⟩, rfl, rfl, rfl⟩
  -- both are compared with the run of what they have in common, from the first session
  obtain ⟨hrun, htold⟩ := twin_run hx hx (Twin.refl x) htake
  obtain ⟨hrun', htold'⟩ := twin_run hx' hx hbegin htake'
  rw [hsame] at hrun' htold'
  refine ⟨htold'.symm.trans htold, fun s => ?_⟩
  exact (hrun.trans hrun'.symm).data.snapshot s

/-- A run that persists nothing by itself where a store is manual. -/
def unhurried : List Action :=
  [.onStore .init, .onStore (.createCollection "t" "c"),
    .onView "c" (.add (.object [("_id", .string "a")])), .onView "c" .count]

/-- The same with operations that only persist. -/
def interrupted : List Action :=
  [.onStore .flush, .onStore .init, .onStore (.createCollection "t" "c"), .onStore .settle,
    .onView "c" (.add (.object [("_id", .string "a")])), .onHost (.setFailing false),
    .onStore .flush, .onView "c" .count]

/-- One store persists each of its mutations, the other some of them to a host
that refuses at first, and neither is told a difference. -/
theorem persistence_never_shows_interrupted :
    let x := start (.memory (.new none)) .immediate []
    let x' := start (.memory ⟨none, [], true⟩) .manual []
    (x.moment unhurried 4).database.offers.map Offer.accepted = [true, true] ∧
      (x'.moment interrupted 8).database.offers.map Offer.accepted = [false, true] ∧
      x'.told interrupted = x.told unhurried ∧
      (x'.moment interrupted 7).database.snapshot? 0 =
        (x.moment unhurried 3).database.snapshot? 0 := by
  have ha : ∀ a ∈ unhurried, a.IsSolo := by simp [unhurried, Action.IsSolo]
  have ha' : ∀ a ∈ interrupted, a.IsSolo := by simp [interrupted, Action.IsSolo]
  have haccepted : ((start (.memory (.new none)) .immediate []).moment unhurried
      4).database.offers.map Offer.accepted = [true, true] := rfl
  have hrefused : ((start (.memory ⟨none, [], true⟩) .manual []).moment interrupted
      8).database.offers.map Offer.accepted = [false, true] := rfl
  have htold := (persistence_never_shows (.memory (.new none)) (.memory ⟨none, [], true⟩)
    .immediate .manual [] rfl unhurried interrupted ha ha' 4 8 rfl).1
  have hsnapshot := (persistence_never_shows (.memory (.new none)) (.memory ⟨none, [], true⟩)
    .immediate .manual [] rfl unhurried interrupted ha ha' 3 7 rfl).2 0
  exact ⟨haccepted, hrefused, htold, hsnapshot⟩

end Session

end DocumentStore
