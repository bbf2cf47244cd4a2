import DocumentStore.Proofs.Operations
import DocumentStore.Proofs.Workers

/-!
# Steps — what one operation of a session does

An operation is refused and changes nothing, or it is done by a store, a
view or a handle that is there (`Session.Way`). What it can leave then is said
once, for each of the three (`AfterStore`, `AfterView`, `AfterHandle`). Apart from
reopening, it first does its own work, which is an edit with the mark of its
store, a load, or something to the host (`Session.effect`), and the rest is
upkeep (`step_effect`). What all operations leave besides is said by `Outcome`.
Reopening does upkeep, adds a store and loads (`database_step`). So the database
stays sound with every step, and it evolves (`evolves_step`).
-/

namespace DocumentStore

namespace Database

variable {db : Database} {s : StoreId}

/-- The database with an edit through a store, if there is one, and the
store's mark. -/
def edited (db : Database) : Option (StoreId × Edit) → Database
  | some (s, e) => (e.perform s db).mark s
  | none => db

@[simp] theorem edited_none (db : Database) : db.edited none = db := rfl

@[simp] theorem edited_some (e : Edit) : db.edited (some (s, e)) = (e.perform s db).mark s := rfl

/-- An edit is made through an initialized store. -/
theorem isSome_of_allowed {e : Edit} (ha : e.Allowed db s) : (db.collections? s).isSome := by
  cases e with
  | create name => exact Option.isSome_iff_exists.2 (ha.imp fun _ h => h.1)
  | dismiss name => exact ha
  | put r id fields words => exact ha.1
  | patch r selects p => exact ha
  | discard r selects => exact ha

theorem evolves_edit {e : Edit} (ha : e.Allowed db s) :
    Evolves db ((e.perform s db).mark s) :=
  (evolves_perform ha).trans (Evolves.of_sameData sameData_mark)

theorem sound_edit {e : Edit} (hdb : Sound db) (ha : e.Allowed db s) :
    Sound ((e.perform s db).mark s) :=
  (hdb.perform ha).mark ((evolves_perform ha).initialized s (isSome_of_allowed ha))

end Database

namespace Session

open Database

variable {x x' : Session} {v : View} {h : Handle} {s : StoreId} {reply : Reply} {db : Database}

/-- **The invariant of a session**: the database is sound, and so are the
views and handles that are held. -/
structure Sound (x : Session) : Prop where
  database : x.database.Sound
  view : ∀ name v, x.views.get? name = some v → v.Sound x.database
  handle : ∀ name h, x.handles.get? name = some h → h.Sound x.database

/-- What a view that is held sees: of its collection, what it admits. -/
theorem Sound.mem_visible_iff (hx : x.Sound) {view id : String} {e : Entry}
    (hview : x.views.get? view = some v) : (id, e) ∈ v.visible x.database ↔
      (id, e) ∈ x.database.entries v.root ∧ v.admits id e = true :=
  View.mem_visible_iff (hx.view view v hview).fits (hx.database.distinct v.root)

theorem step_onStore (hstore : x.store = some s) (a : StoreAction) :
    x.step (.onStore a) = x.conclude (x.onStore s a) := by
  rw [step, hstore]

theorem step_onView {view : String} (hview : x.views.get? view = some v) (a : ViewAction) :
    x.step (.onView view a) = x.conclude (x.onView v a) := by
  rw [step, hview]

theorem step_onHandle {handle : String} (hhandle : x.handles.get? handle = some h)
    (a : HandleAction) : x.step (.onHandle handle a) = x.conclude (x.onHandle h a) := by
  rw [step, hhandle]

/-! ## The edit of an operation -/

/-- The edit an operation makes, if it makes one, and the store it goes
through. -/
def edit? (x : Session) : Action → Option (StoreId × Edit)
  | .onStore a => do
    let s ← x.store
    (x.database.edit? s a).map (s, ·)
  | .onView view a => do
    let v ← x.views.get? view
    (v.edit? x.database a).map (v.store, ·)
  | .onHandle handle a => do
    let h ← x.handles.get? handle
    (h.edit? x.database a).map (h.store, ·)
  | _ => none

theorem edit?_onStore_eq_some_iff {a : StoreAction} {e : Edit} :
    x.edit? (.onStore a) = some (s, e) ↔
      x.store = some s ∧ x.database.edit? s a = some e := by
  simp only [edit?, Option.bind_eq_bind, Option.bind_eq_some_iff, Option.map_eq_some_iff,
    Prod.mk.injEq]
  constructor
  · rintro ⟨s', hs, e', he, rfl, rfl⟩
    exact ⟨hs, he⟩
  · rintro ⟨hs, he⟩
    exact ⟨s, hs, e, he, rfl, rfl⟩

theorem edit?_onView_eq_some_iff {view : String} {a : ViewAction} {e : Edit} :
    x.edit? (.onView view a) = some (s, e) ↔
      ∃ v, x.views.get? view = some v ∧ v.store = s ∧ v.edit? x.database a = some e := by
  simp only [edit?, Option.bind_eq_bind, Option.bind_eq_some_iff, Option.map_eq_some_iff,
    Prod.mk.injEq]
  constructor
  · rintro ⟨v, hview, e', he, hs, rfl⟩
    exact ⟨v, hview, hs, he⟩
  · rintro ⟨v, hview, hs, he⟩
    exact ⟨v, hview, e, he, hs, rfl⟩

theorem edit?_onHandle_eq_some_iff {handle : String} {a : HandleAction} {e : Edit} :
    x.edit? (.onHandle handle a) = some (s, e) ↔
      ∃ h, x.handles.get? handle = some h ∧ h.store = s ∧ h.edit? x.database a = some e := by
  simp only [edit?, Option.bind_eq_bind, Option.bind_eq_some_iff, Option.map_eq_some_iff,
    Prod.mk.injEq]
  constructor
  · rintro ⟨h, hhandle, e', he, hs, rfl⟩
    exact ⟨h, hhandle, hs, he⟩
  · rintro ⟨h, hhandle, hs, he⟩
    exact ⟨h, hhandle, e, he, hs, rfl⟩

/-- **The edits of operations are allowed.** -/
theorem Sound.allowed (hx : x.Sound) {a : Action} {e : Edit} (he : x.edit? a = some (s, e)) :
    e.Allowed x.database s := by
  cases a with
  | onStore a => exact Database.allowed_edit? (edit?_onStore_eq_some_iff.1 he).2
  | onView view a =>
    obtain ⟨v, hview, rfl, hedit⟩ := edit?_onView_eq_some_iff.1 he
    exact View.allowed_edit? (hx.view view v hview) hedit
  | onHandle handle a =>
    obtain ⟨h, hhandle, rfl, hedit⟩ := edit?_onHandle_eq_some_iff.1 he
    exact Handle.allowed_edit? (hx.handle handle h hhandle) hedit
  | _ => cases he

/-- The database after an operation's own work, before anything is
persisted. -/
def effect (x : Session) : Action → Database
  | .onStore .init => (x.store.bind fun s => (x.database.init s).toOption).getD x.database
  | .onHost a => (x.onHost a).1.database
  | a => x.database.edited (x.edit? a)

variable {a : Action}

/-- The effect of an operation that makes an edit. -/
theorem effect_of_edit? {e : Edit} (he : x.edit? a = some (s, e)) :
    x.effect a = (e.perform s x.database).mark s := by
  have hedited : x.database.edited (x.edit? a) = (e.perform s x.database).mark s := by
    rw [he, edited_some]
  cases a with
  | onStore a =>
    cases a with
    | init => cases (edit?_onStore_eq_some_iff.1 he).2
    | _ => exact hedited
  | onHost a => cases he
  | _ => exact hedited

/-- Operations that make no edit and do not initialize have no effect, on a
store, -/
theorem effect_onStore_of_none {a : StoreAction} (hs : x.store = some s) (ha : a ≠ .init)
    (he : x.database.edit? s a = none) : x.effect (.onStore a) = x.database := by
  have hedited : x.database.edited (x.edit? (.onStore a)) = x.database := by simp [edit?, hs, he]
  cases a with
  | init => exact absurd rfl ha
  | _ => exact hedited

/-- on a view, -/
theorem effect_onView_of_none {view : String} {a : ViewAction} (hview : x.views.get? view = some v)
    (he : v.edit? x.database a = none) : x.effect (.onView view a) = x.database := by
  simp [effect, edit?, hview, he]

/-- and on a handle. -/
theorem effect_onHandle_of_none {handle : String} {a : HandleAction}
    (hhandle : x.handles.get? handle = some h) (he : h.edit? x.database a = none) :
    x.effect (.onHandle handle a) = x.database := by
  simp [effect, edit?, hhandle, he]

/-- **What an effect can be**: an edit with the mark of its store, nothing, a
load, or something to the host. -/
theorem effect_cases (x : Session) (a : Action) :
    (∃ s e, x.edit? a = some (s, e) ∧ x.effect a = (e.perform s x.database).mark s) ∨
      (x.edit? a = none ∧ (x.effect a = x.database ∨
        (∃ s, a = .onStore .init ∧ x.store = some s ∧ x.database.init s = .ok (x.effect a)) ∨
        ∃ h, a = .onHost h ∧
          x.effect a = { x.database with host := (x.onHost h).1.database.host })) := by
  cases he : x.edit? a with
  | some made => exact .inl ⟨made.1, made.2, rfl, effect_of_edit? he⟩
  | none =>
    refine .inr ⟨rfl, ?_⟩
    have hedited : x.database.edited (x.edit? a) = x.database := by rw [he, edited_none]
    cases a with
    | onStore a =>
      cases a with
      | init =>
        have heffect : x.effect (.onStore .init) =
            (x.store.bind fun s => (x.database.init s).toOption).getD x.database := rfl
        rw [heffect]
        cases hs : x.store with
        | none => exact .inl rfl
        | some s =>
          cases hinit : x.database.init s with
          | error e => exact .inl (by simp [hinit, Except.toOption])
          | ok db => exact .inr (.inl ⟨s, rfl, rfl, by simp [hinit, Except.toOption]⟩)
      | _ => exact .inl hedited
    | onHost a => cases a <;> exact .inr (.inr ⟨_, rfl, rfl⟩)
    | _ => exact .inl hedited

/-! ## What is done -/

/-- **What an operation on a store leaves**: what it loaded, its edit and a touch, a
view of a collection that is there, what it persisted, or all as it was. -/
inductive AfterStore (x : Session) (s : StoreId) : StoreAction → Session → Prop
  | initialized {db : Database} (hinit : x.database.init s = .ok db) :
      AfterStore x s .init { x with database := db }
  | created {name bind : String}
      (he : x.database.edit? s (.createCollection name bind) = some (.create name)) :
      AfterStore x s (.createCollection name bind)
        (({ x with database := ((Edit.create name).perform s x.database).touch s } :
          Session).bindView bind (.whole s x.database.roots.length name)).2
  | removed {name : String} {e : Edit}
      (he : x.database.edit? s (.removeCollection name) = some e) :
      AfterStore x s (.removeCollection name)
        { x with database := (e.perform s x.database).touch s }
  | found {name bind : String} {names : Bindings RootId} {r : RootId}
      (hnames : x.database.collections? s = some names) (hroot : names.get? name = some r) :
      AfterStore x s (.collection name bind) (x.bindView bind (.whole s r name)).2
  | flushed : AfterStore x s .flush { x with database := (x.database.flush s).1 }
  | settled : AfterStore x s .settle { x with database := ((x.awaitTimer s).flush s).1 }
  | same {a : StoreAction} (hinit : a ≠ .init) (hflush : a ≠ .flush) (hsettle : a ≠ .settle)
      (he : x.database.edit? s a = none) : AfterStore x s a x

theorem after_onStore {a : StoreAction} (ho : x.onStore s a = .ok (reply, x')) :
    AfterStore x s a x' := by
  cases a with
  | init =>
    obtain ⟨db, hinit, ho⟩ := bind_eq_ok.1 ho
    cases ho
    exact .initialized hinit
  | createCollection name bind =>
    obtain ⟨⟨v, db⟩, hcreate, ho⟩ := bind_eq_ok.1 ho
    cases ho
    obtain ⟨he, rfl, rfl⟩ := createCollection_ok hcreate
    exact .created he
  | collection name bind =>
    obtain ⟨found, hfound, ho⟩ := bind_eq_ok.1 ho
    unfold collection? at hfound
    split at hfound
    · cases hfound
    · next names hnames =>
      cases hroot : names.get? name with
      | none =>
        rw [hroot] at hfound
        cases hfound
        cases ho
        exact .same (by simp) (by simp) (by simp) rfl
      | some r =>
        rw [hroot] at hfound
        cases hfound
        cases ho
        exact .found hnames hroot
  | removeCollection name =>
    obtain ⟨⟨existed, db⟩, hremove, ho⟩ := bind_eq_ok.1 ho
    cases ho
    obtain ⟨he, rfl⟩ := removeCollection_ok hremove
    exact .removed he
  | collectionNames =>
    obtain ⟨names, -, ho⟩ := bind_eq_ok.1 ho
    cases ho
    exact .same (by simp) (by simp) (by simp) rfl
  | flush => cases ho; exact .flushed
  | settle => cases ho; exact .settled
  | _ => cases ho; exact .same (by simp) (by simp) (by simp) rfl

/-- **What an operation on a view leaves**: its edit and a touch; or it makes no edit,
and all is as it was but for a view or a handle that it keeps. -/
inductive AfterView (x : Session) (v : View) (a : ViewAction) : Session → Prop
  | edited {e : Edit} (he : v.edit? x.database a = some e) :
      AfterView x v a { x with database := (e.perform v.store x.database).touch v.store }
  | options (bind : String) (options : Options) (he : v.edit? x.database a = none) :
      AfterView x v a (x.bindView bind { v with options }).2
  | filter (bind : String) (f : Filter) (he : v.edit? x.database a = none) :
      AfterView x v a (x.bindView bind (v.filter x.database f)).2
  | handle (bind id : String) (he : v.edit? x.database a = none) :
      AfterView x v a (x.bindHandle bind (v.handle id)).2
  | same (he : v.edit? x.database a = none) : AfterView x v a x

theorem after_onView {view : String} {a : ViewAction} (hx : x.Sound)
    (hview : x.views.get? view = some v) (ho : x.onView v a = .ok (reply, x')) :
    AfterView x v a x' := by
  have hfits := (hx.view view v hview).fits
  have hd := hx.database.distinct v.root
  cases a with
  | add document =>
    obtain ⟨⟨id, db⟩, hadd, ho⟩ := bind_eq_ok.1 ho
    cases ho
    obtain ⟨fields, words, he, rfl⟩ := View.add_eq_ok_iff.1 hadd
    exact .edited he
  | update p =>
    simp only [onView, View.update_eq hfits hd] at ho
    cases ho
    exact .edited rfl
  | updateValue value =>
    obtain ⟨⟨n, db⟩, hupdate, ho⟩ := bind_eq_ok.1 ho
    cases ho
    obtain ⟨p, hp, hupdate⟩ := bind_eq_ok.1 hupdate
    rw [View.update_eq hfits hd] at hupdate
    cases hupdate
    exact .edited (by simp [View.edit?, hp, Except.toOption])
  | remove =>
    simp only [onView, View.remove_eq hfits hd] at ho
    cases ho
    exact .edited rfl
  | filterValue value bind =>
    obtain ⟨w, hw, ho⟩ := bind_eq_ok.1 ho
    obtain ⟨f, -, hw⟩ := bind_eq_ok.1 hw
    cases ho
    cases hw
    exact .filter bind f rfl
  | filter f bind => cases ho; exact .filter bind f rfl
  | limit n bind => cases ho; exact .options bind _ rfl
  | skip n bind => cases ho; exact .options bind _ rfl
  | orderBy field direction bind => cases ho; exact .options bind _ rfl
  | handle id bind => cases ho; exact .handle bind id rfl
  | _ => cases ho; exact .same rfl

/-- **What an operation on a handle leaves**: its edit and a touch, or all as it was. -/
inductive AfterHandle (x : Session) (h : Handle) (a : HandleAction) : Session → Prop
  | edited {e : Edit} (he : h.edit? x.database a = some e) :
      AfterHandle x h a { x with database := (e.perform h.store x.database).touch h.store }
  | same (he : h.edit? x.database a = none) : AfterHandle x h a x

theorem after_onHandle {a : HandleAction} (hx : x.Sound)
    (ho : x.onHandle h a = .ok (reply, x')) : AfterHandle x h a x' := by
  have hd := hx.database.distinct h.root
  cases a with
  | update p =>
    obtain ⟨db, hu, ho⟩ := bind_eq_ok.1 ho
    cases ho
    obtain ⟨hp, rfl⟩ := Handle.update_ok hd hu
    exact .edited (if_pos hp)
  | updateValue value =>
    obtain ⟨db, hu, ho⟩ := bind_eq_ok.1 ho
    obtain ⟨p, hvalue, hu⟩ := bind_eq_ok.1 hu
    cases ho
    obtain ⟨hp, rfl⟩ := Handle.update_ok hd hu
    exact .edited (by simp [Handle.edit?, hp, hvalue, Except.toOption])
  | remove =>
    by_cases hp : h.isPresent x.database = true
    · simp only [onHandle, Handle.remove_eq hd hp] at ho
      cases ho
      exact .edited (if_pos hp)
    · simp only [onHandle, Handle.remove, if_neg hp] at ho
      cases ho
      exact .same (if_neg hp)
  | _ => cases ho; exact .same rfl

/-! ## Outcomes -/

/-- **What an operation other than reopening leaves**, before stores are
given up: its effect after some upkeep; or, besides it, a view or a handle
that it keeps; or nothing held. -/
inductive Outcome (x : Session) (a : Action) : Session → Prop
  | database {db : Database} (hf : Tended (x.effect a) db) : Outcome x a { x with database := db }
  | created {s : StoreId} {name : String} (bind : String)
      (he : x.edit? a = some (s, .create name)) :
      Outcome x a (({ x with database := ((Edit.create name).perform s x.database).touch s } :
        Session).bindView bind (.whole s x.database.roots.length name)).2
  | found {s : StoreId} {r : RootId} (name bind : String) (he : x.effect a = x.database)
      (hstore : x.store = some s) (hs : (x.database.collections? s).isSome)
      (hr : r < x.database.roots.length) :
      Outcome x a (x.bindView bind (.whole s r name)).2
  | options {view : String} {v : View} (bind : String) (options : Options)
      (he : x.effect a = x.database) (hview : x.views.get? view = some v) :
      Outcome x a (x.bindView bind { v with options }).2
  | filter {view : String} {v : View} (bind : String) (f : Filter) (he : x.effect a = x.database)
      (hview : x.views.get? view = some v) :
      Outcome x a (x.bindView bind (v.filter x.database f)).2
  | handle {view : String} {v : View} (bind id : String) (he : x.effect a = x.database)
      (hview : x.views.get? view = some v) : Outcome x a (x.bindHandle bind (v.handle id)).2
  | dropped (he : x.effect a = x.database) :
      Outcome x a { x with store := none, views := [], handles := [] }

/-- An operation without effect may leave all as it was. -/
theorem Outcome.same (he : x.effect a = x.database) : Outcome x a x :=
  .database (by rw [he]; exact .refl _)

/-- An operation whose edit is followed by a touch. -/
theorem Outcome.edit {e : Edit} (he : x.edit? a = some (s, e)) :
    Outcome x a { x with database := (e.perform s x.database).touch s } :=
  .database (by rw [effect_of_edit? he]; exact tended_touch)

theorem outcome_onStore {a : StoreAction} (hx : x.Sound) (hs : x.store = some s)
    (ho : x.onStore s a = .ok (reply, x')) : Outcome x (.onStore a) x' := by
  have hnone {a : StoreAction} (ha : a ≠ .init) (he : x.database.edit? s a = none) :
      x.effect (.onStore a) = x.database := effect_onStore_of_none hs ha he
  cases after_onStore ho with
  | initialized hinit =>
    refine .database ?_
    simp only [effect, hs, Option.bind_some, hinit]
    exact .refl _
  | @created name bind he => exact .created bind (edit?_onStore_eq_some_iff.2 ⟨hs, he⟩)
  | removed he => exact .edit (edit?_onStore_eq_some_iff.2 ⟨hs, he⟩)
  | @found name bind names r hnames hroot =>
    exact .found name bind (hnone (by simp) rfl) hs (by rw [hnames]; rfl)
      ((hx.database.named s names hnames).root_lt name r (Bindings.mem_of_get? hroot))
  | flushed =>
    refine .database ?_
    rw [hnone (by simp) rfl]
    exact tended_flush
  | settled =>
    refine .database ?_
    rw [hnone (by simp) rfl]
    exact tended_awaitTimer.trans tended_flush
  | same hinit hflush hsettle he => exact .same (hnone hinit he)

/-- What is refused of a store makes no edit, -/
theorem edit?_onStore_error {a : StoreAction} {refusal : StoreError}
    (ho : x.onStore s a = .error refusal) : x.database.edit? s a = none := by
  cases a with
  | createCollection name bind =>
    cases hcreate : x.database.createCollection s name with
    | error e => exact createCollection_error hcreate
    | ok created => simp only [onStore, Bind.bind, Except.bind, hcreate] at ho; cases ho
  | removeCollection name =>
    cases hremove : x.database.removeCollection s name with
    | error e => exact removeCollection_error hremove
    | ok removed => simp only [onStore, Bind.bind, Except.bind, hremove] at ho; cases ho
  | _ => rfl

/-- and leaves the database as it is. -/
theorem effect_onStore_error {a : StoreAction} {refusal : StoreError} (hs : x.store = some s)
    (ho : x.onStore s a = .error refusal) : x.effect (.onStore a) = x.database := by
  have hnone := edit?_onStore_error ho
  cases a with
  | init =>
    cases hinit : x.database.init s with
    | error e => simp [effect, hs, hinit, Except.toOption]
    | ok db => simp only [onStore, bind, Except.bind, hinit] at ho; cases ho
  | _ => exact effect_onStore_of_none hs (by simp) hnone

theorem outcome_onView {view : String} {a : ViewAction} (hx : x.Sound)
    (hview : x.views.get? view = some v) (ho : x.onView v a = .ok (reply, x')) :
    Outcome x (.onView view a) x' := by
  have hnone (he : v.edit? x.database a = none) : x.effect (.onView view a) = x.database :=
    effect_onView_of_none hview he
  cases after_onView hx hview ho with
  | edited he => exact .edit (edit?_onView_eq_some_iff.2 ⟨v, hview, rfl, he⟩)
  | options bind options he => exact .options bind options (hnone he) hview
  | filter bind f he => exact .filter bind f (hnone he) hview
  | handle bind id he => exact .handle bind id (hnone he) hview
  | same he => exact .same (hnone he)

/-- What is refused of a view makes no edit. -/
theorem edit?_onView_error {a : ViewAction} {refusal : StoreError}
    (ho : x.onView v a = .error refusal) : v.edit? x.database a = none := by
  cases a with
  | add document =>
    by_contra hne
    obtain ⟨edit, hedit⟩ := Option.ne_none_iff_exists'.1 hne
    obtain ⟨id, fields, words, rfl, -⟩ := View.edit?_add hedit
    simp only [onView, bind, Except.bind, View.add_eq_ok_iff.2 ⟨fields, words, hedit, rfl⟩] at ho
    cases ho
  | updateValue value =>
    cases hp : Patch.ofValue? value with
    | error e => simp [View.edit?, hp, Except.toOption]
    | ok p =>
      simp only [onView, View.updateValue, bind, Except.bind, hp, pure, Except.pure] at ho
      cases ho
  | update p => cases ho
  | remove => cases ho
  | _ => rfl

theorem outcome_onHandle {handle : String} {a : HandleAction} (hx : x.Sound)
    (hhandle : x.handles.get? handle = some h) (ho : x.onHandle h a = .ok (reply, x')) :
    Outcome x (.onHandle handle a) x' := by
  cases after_onHandle hx ho with
  | edited he => exact .edit (edit?_onHandle_eq_some_iff.2 ⟨h, hhandle, rfl, he⟩)
  | same he => exact .same (effect_onHandle_of_none hhandle he)

/-- What is refused of a handle makes no edit. -/
theorem edit?_onHandle_error {a : HandleAction} {refusal : StoreError} (hdb : x.database.Sound)
    (ho : x.onHandle h a = .error refusal) : h.edit? x.database a = none := by
  have hd := hdb.distinct h.root
  cases a with
  | update p =>
    simp only [Handle.edit?]
    split
    · next hp =>
      simp only [onHandle, bind, Except.bind, Handle.update_eq hd hp] at ho
      cases ho
    · rfl
  | updateValue value =>
    simp only [Handle.edit?]
    split
    · next hp =>
      cases hvalue : Patch.ofValue? value with
      | error e => rfl
      | ok p =>
        simp only [onHandle, Handle.updateValue, bind, Except.bind, hvalue,
          Handle.update_eq hd hp] at ho
        cases ho
    · rfl
  | remove => cases ho
  | _ => rfl

/-! ## Steps -/

/-- **The ways an operation goes**: it is refused, makes no edit and leaves the
session as it was; or a store, a view or a handle that is there does it, and
the stores that nothing holds then are given up; or it is about none of
these. -/
inductive Way (x : Session) : Action → Prop
  | refused {a : Action} {refusal : Refusal} (hstep : x.step a = (x, .error refusal))
      (hedit : x.edit? a = none) (heffect : x.effect a = x.database) : Way x a
  | onStore {s : StoreId} {a : StoreAction} {done : Reply × Session} (hs : x.store = some s)
      (ho : x.onStore s a = .ok done)
      (hstep : x.step (.onStore a) = (done.2.release, .ok done.1)) : Way x (.onStore a)
  | onView {view : String} {v : View} {a : ViewAction} {done : Reply × Session}
      (hview : x.views.get? view = some v) (ho : x.onView v a = .ok done)
      (hstep : x.step (.onView view a) = (done.2.release, .ok done.1)) : Way x (.onView view a)
  | onHandle {handle : String} {h : Handle} {a : HandleAction} {done : Reply × Session}
      (hhandle : x.handles.get? handle = some h) (ho : x.onHandle h a = .ok done)
      (hstep : x.step (.onHandle handle a) = (done.2.release, .ok done.1)) :
      Way x (.onHandle handle a)
  | onHost (a : HostAction) : Way x (.onHost a)
  | drop : Way x .drop
  | reopen (config : Config) : Way x (.reopen config)
  | wait (nanos : Nat) : Way x (.wait nanos)

/-- **Every operation goes one of the ways.** -/
theorem Sound.way (hx : x.Sound) (a : Action) : x.Way a := by
  cases a with
  | onStore a =>
    cases hs : x.store with
    | none =>
      have heffect : x.effect (.onStore a) = x.database := by
        cases a <;> simp [effect, edit?, hs]
      have hstep : x.step (.onStore a) = (x, .error .noStore) := by simp only [step, hs]
      exact .refused hstep (by simp [edit?, hs]) heffect
    | some s =>
      cases ho : x.onStore s a with
      | error e =>
        have hnone := edit?_onStore_error ho
        exact .refused (by simp only [step, hs, ho]; rfl) (by simp [edit?, hs, hnone])
          (effect_onStore_error hs ho)
      | ok done => exact .onStore hs ho (by simp only [step, hs, ho]; rfl)
  | onView view a =>
    cases hview : x.views.get? view with
    | none =>
      have hnone : x.edit? (.onView view a) = none := by simp [edit?, hview]
      have hstep : x.step (.onView view a) = (x, .error .noView) := by simp only [step, hview]
      exact .refused hstep hnone (by simp [effect, hnone])
    | some v =>
      cases ho : x.onView v a with
      | error e =>
        have hnone := edit?_onView_error ho
        exact .refused (by rw [step_onView hview, ho]; rfl) (by simp [edit?, hview, hnone])
          (effect_onView_of_none hview hnone)
      | ok done => exact .onView hview ho (by rw [step_onView hview, ho]; rfl)
  | onHandle handle a =>
    cases hhandle : x.handles.get? handle with
    | none =>
      have hnone : x.edit? (.onHandle handle a) = none := by simp [edit?, hhandle]
      have hstep : x.step (.onHandle handle a) = (x, .error .noHandle) := by
        simp only [step, hhandle]
      exact .refused hstep hnone (by simp [effect, hnone])
    | some h =>
      cases ho : x.onHandle h a with
      | error e =>
        have hnone := edit?_onHandle_error hx.database ho
        exact .refused (by rw [step_onHandle hhandle, ho]; rfl) (by simp [edit?, hhandle, hnone])
          (effect_onHandle_of_none hhandle hnone)
      | ok done => exact .onHandle hhandle ho (by rw [step_onHandle hhandle, ho]; rfl)
  | onHost a => exact .onHost a
  | drop => exact .drop
  | reopen config => exact .reopen config
  | wait nanos => exact .wait nanos

/-- **A step leaves an outcome**, and then gives up the stores that nothing
holds, unless it was refused. -/
theorem outcome_step (hx : x.Sound) (ha : ∀ config, a ≠ .reopen config) :
    ∃ x', Outcome x a x' ∧ ((x.step a).1 = x' ∨ (x.step a).1 = x'.release) := by
  cases hx.way a with
  | refused hstep hedit heffect => exact ⟨x, .same heffect, .inl (congrArg Prod.fst hstep)⟩
  | onStore hs ho hstep => exact ⟨_, outcome_onStore hx hs ho, .inr (congrArg Prod.fst hstep)⟩
  | onView hview ho hstep =>
    exact ⟨_, outcome_onView hx hview ho, .inr (congrArg Prod.fst hstep)⟩
  | onHandle hhandle ho hstep =>
    exact ⟨_, outcome_onHandle hx hhandle ho, .inr (congrArg Prod.fst hstep)⟩
  | onHost a =>
    refine ⟨{ x with database := (x.onHost a).1.database }, .database (.refl _), .inl ?_⟩
    cases a <;> rfl
  | drop => exact ⟨_, .dropped rfl, .inr rfl⟩
  | reopen config => exact absurd rfl (ha config)
  | wait nanos => exact ⟨_, .database (tended_elapse _), .inl rfl⟩

/-- Only giving up stores makes workers exit. -/
theorem Outcome.tended (h : Outcome x a x') : Tended (x.effect a) x'.database := by
  have hsame (he : x.effect a = x.database) : Tended (x.effect a) x.database := he ▸ .refl _
  cases h with
  | database hf => exact hf
  | created bind he => rw [effect_of_edit? he]; exact tended_touch
  | found name bind he hstore hs hr => exact hsame he
  | options bind options he hview => exact hsame he
  | filter bind f he hview => exact hsame he
  | handle bind id he hview => exact hsame he
  | dropped he => exact hsame he

/-- **A step is the effect of its operation, and then upkeep.** -/
theorem step_effect (hx : x.Sound) (ha : ∀ config, a ≠ .reopen config) :
    Upkept (x.effect a) (x.step a).1.database := by
  obtain ⟨x', houtcome, heq | heq⟩ := outcome_step hx ha
  · rw [heq]
    exact houtcome.tended.upkept
  · rw [heq]
    exact houtcome.tended.upkept.trans (upkept_release x')

/-- Unless another is opened, the store stays or is given up. -/
theorem store_step (hx : x.Sound) (ha : ∀ config, a ≠ .reopen config) :
    (x.step a).1.store = x.store ∨ (x.step a).1.store = none := by
  obtain ⟨x', houtcome, hstep⟩ := outcome_step hx ha
  have hsame : (x.step a).1.store = x'.store := by
    rcases hstep with heq | heq
    · rw [heq]
    · rw [heq, release_store]
  rw [hsame]
  cases houtcome with
  | dropped he => exact .inr rfl
  | _ => exact .inl rfl

/-- **Reopening** is upkeep and then nothing else, or a store that is added
and initialized. -/
theorem step_reopen (x : Session) (config : Config) :
    ∃ db, Upkept x.database db ∧ ((x.step (.reopen config)).1.database = db ∨
      ∃ s, db.openStore config = .ok (s, (x.step (.reopen config)).1.database)) := by
  refine ⟨_, upkept_release { x with store := none }, ?_⟩
  simp only [step, reopen]
  cases hopen : ({ x with store := none } : Session).release.database.openStore config with
  | error e => exact .inl rfl
  | ok opened => exact .inr ⟨opened.1, rfl⟩

/-- **What a step does to the database**: the work of its operation and then
upkeep; or, if it opens another store, upkeep before that is added and
initialized. -/
theorem database_step (hx : x.Sound) (a : Action) :
    Upkept (x.effect a) (x.step a).1.database ∨
      ∃ config db, a = .reopen config ∧ Upkept x.database db ∧
        (db.addStore config).2.init db.stores.length = .ok (x.step a).1.database := by
  by_cases ha : ∃ config, a = .reopen config
  · obtain ⟨config, rfl⟩ := ha
    obtain ⟨db, hf, heq | ⟨s, hopen⟩⟩ := step_reopen x config
    · exact .inl (heq ▸ hf)
    · obtain ⟨rfl, hinit⟩ := openStore_eq_ok_iff.1 hopen
      exact .inr ⟨config, db, rfl, hf, hinit⟩
  · exact .inl (step_effect hx fun config heq => ha ⟨config, heq⟩)

/-- What operations do before they persist keeps the database sound. -/
theorem sound_effect (hx : x.Sound) (a : Action) :
    (x.effect a).Sound ∧ Evolves x.database (x.effect a) := by
  rcases effect_cases x a with ⟨s, e, he, heq⟩ | ⟨-, heq | ⟨s, rfl, -, hinit⟩ | ⟨h, rfl, heq⟩⟩
  · rw [heq]
    exact ⟨sound_edit hx.database (hx.allowed he), evolves_edit (hx.allowed he)⟩
  · rw [heq]
    exact ⟨hx.database, .refl x.database⟩
  · exact ⟨hx.database.init hinit, evolves_init hinit⟩
  · have hhost : SameData x.database { x.database with host := (x.onHost h).1.database.host } :=
      ⟨rfl, rfl, rfl, rfl, fun _ => rfl⟩
    rw [heq]
    exact ⟨hx.database.of_sameData hhost hx.database.initialized, .of_sameData hhost⟩

/-- After a step the database is sound, and it evolved. -/
theorem sound_database_step (hx : x.Sound) (a : Action) :
    (x.step a).1.database.Sound ∧ Evolves x.database (x.step a).1.database := by
  rcases database_step hx a with hf | ⟨config, db, rfl, hf, hinit⟩
  · obtain ⟨hsound, hevolves⟩ := sound_effect hx a
    exact ⟨hsound.upkept hf, hevolves.trans (.of_sameData hf.sameData)⟩
  · have hadded : Evolves db (db.addStore config).2 := evolves_addStore config
    exact ⟨((hx.database.upkept hf).addStore config).init hinit,
      (Evolves.of_sameData hf.sameData).trans (hadded.trans (evolves_init hinit))⟩

/-- **A step evolves the database.** -/
theorem evolves_step (hx : x.Sound) (a : Action) : Evolves x.database (x.step a).1.database :=
  (sound_database_step hx a).2

/-! ## A step seen from one collection -/

/-- The operations that may load data from the host. -/
inductive Loads : Action → Prop
  | init : Loads (.onStore .init)
  | reopen (config : Config) : Loads (.reopen config)

theorem Loads.edit?_eq_none (ha : Loads a) : x.edit? a = none := by
  cases ha with
  | init => cases hs : x.store <;> simp [edit?, hs, Database.edit?]
  | reopen config => rfl

/-- **What a step does to the entries of a collection**: its edit rewrites
them, or they stay as they are, or the collection's data is new and they
were loaded. -/
theorem entries_step (hx : x.Sound) (a : Action) (r : RootId) :
    (∃ s e, x.edit? a = some (s, e) ∧ e.Allowed x.database s ∧
        (x.step a).1.database.entries r =
          e.rewrite x.database.generation r (x.database.entries r)) ∨
      (x.edit? a = none ∧ (x.step a).1.database.entries r = x.database.entries r) ∨
      (Loads a ∧ x.database.roots.length ≤ r ∧ ((x.step a).1.database.entries r).Fresh
        x.database.generation (x.step a).1.database.generation) := by
  rcases database_step hx a with hf | ⟨config, db, rfl, hf, hinit⟩
  · -- upkeep does not change entries, so that the effect is all there is to see
    rw [hf.sameData.entries, hf.sameData.generation]
    rcases effect_cases x a with
      ⟨s, e, he, heq⟩ | ⟨hnone, heq | ⟨s, rfl, -, hinit⟩ | ⟨h, rfl, heq⟩⟩
    · refine .inl ⟨s, e, he, hx.allowed he, ?_⟩
      rw [heq, ← entries_perform (hx.allowed he)]
      exact sameData_mark.entries r
    · exact .inr (.inl ⟨hnone, by rw [heq]⟩)
    · rcases entries_init hinit r with hsame | hfresh
      · exact .inr (.inl ⟨hnone, hsame⟩)
      · exact .inr (.inr ⟨.init, hfresh⟩)
    · refine .inr (.inl ⟨hnone, ?_⟩)
      rw [heq]
      rfl
  · rw [← hf.sameData.entries, ← hf.sameData.roots, ← hf.sameData.generation]
    rcases entries_init hinit r with hsame | hfresh
    · exact .inr (.inl ⟨rfl, hsame⟩)
    · exact .inr (.inr ⟨.reopen config, hfresh⟩)

/-- So the edit of an operation is all it does to them. -/
theorem entries_step_of_edit? (hx : x.Sound) {e : Edit} (he : x.edit? a = some (s, e))
    (r : RootId) : (x.step a).1.database.entries r =
      e.rewrite x.database.generation r (x.database.entries r) := by
  rcases entries_step hx a r with ⟨_, _, he', -, hrewrite⟩ | ⟨hnone, -⟩ | ⟨hloads, -⟩
  · rw [he'] at he
    cases he
    exact hrewrite
  · rw [hnone] at he; cases he
  · rw [hloads.edit?_eq_none] at he; cases he

end Session

end DocumentStore
