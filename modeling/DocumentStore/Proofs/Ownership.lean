import DocumentStore.Proofs.Run

/-!
# Ownership — which store the data of a collection belongs to

Stores on one host share a table of data, but no two of them name the same
data: what a store is given to name is new (`extends_step`). So every view and
handle of data that a store names goes through that store (`Session.Owned`),
and the snapshot of a store is changed only by operations through it
(`snapshot?_step`).
-/

namespace DocumentStore

/-! ## The collection of an edit -/

namespace Edit

/-- The collection whose data an edit changes, if it is one that is there. -/
def root? : Edit → Option RootId
  | .put r _ _ _ => some r
  | .patch r _ _ => some r
  | .discard r _ => some r
  | _ => none

/-- Other collections stay as they are. -/
theorem rewrite_of_ne {generation : Nat} {r : RootId} {entries : Entries} (e : Edit)
    (h : e.root? ≠ some r) : e.rewrite generation r entries = entries := by
  cases e with
  | create name => rfl
  | dismiss name => rfl
  | put r' id fields words => exact if_neg fun hr => h (congrArg some hr)
  | patch r' selects p => exact if_neg fun hr => h (congrArg some hr)
  | discard r' selects => exact if_neg fun hr => h (congrArg some hr)

end Edit

/-- The edits of a view are of its collection. -/
theorem View.root_of_edit? {v : View} {db : Database} {a : ViewAction} {e : Edit}
    (he : v.edit? db a = some e) : e.root? = some v.root := by
  cases a with
  | add document =>
    obtain ⟨id, fields, words, rfl, -⟩ := edit?_add he
    rfl
  | update p => cases he; rfl
  | updateValue value =>
    obtain ⟨p, -, rfl⟩ := Option.map_eq_some_iff.1 he
    rfl
  | remove => cases he; rfl
  | _ => cases he

/-- And so are those of a handle. -/
theorem Handle.root_of_edit? {h : Handle} {db : Database} {a : HandleAction} {e : Edit}
    (he : h.edit? db a = some e) : e.root? = some h.root := by
  cases a with
  | update p =>
    obtain ⟨-, he⟩ := Option.ite_none_right_eq_some.1 he
    cases he
    rfl
  | updateValue value =>
    obtain ⟨-, he⟩ := Option.ite_none_right_eq_some.1 he
    obtain ⟨p, -, rfl⟩ := Option.map_eq_some_iff.1 he
    rfl
  | remove =>
    obtain ⟨-, he⟩ := Option.ite_none_right_eq_some.1 he
    cases he
    rfl
  | _ => cases he

namespace Database

variable {db db' : Database} {s t : StoreId} {r : RootId} {e : Edit}

/-! ## Names -/

/-- A store names the data of a collection. -/
def Owns (db : Database) (s : StoreId) (r : RootId) : Prop :=
  ∃ names name, db.collections? s = some names ∧ (name, r) ∈ names

theorem Sound.lt_of_owns (hdb : Sound db) (h : db.Owns s r) : r < db.roots.length := by
  obtain ⟨names, name, hnames, hmem⟩ := h
  exact (hdb.named s names hnames).root_lt name r hmem

theorem owns_congr (h : db'.collections? s = db.collections? s) : db'.Owns s r ↔ db.Owns s r := by
  rw [Owns, Owns, h]

/-- Between two databases names were given to new data of one store at
most. -/
def Extends (db db' : Database) : Prop :=
  ∃ s₀, ∀ s r, db'.Owns s r → db.Owns s r ∨ (db.roots.length ≤ r ∧ s = s₀)

theorem Extends.of_collections (h : ∀ s, db'.collections? s = db.collections? s) :
    Extends db db' :=
  ⟨0, fun s _ howns => .inl ((owns_congr (h s)).1 howns)⟩

/-- **An edit** gives a name to new data of its store, or to nothing. -/
theorem extends_perform (ha : e.Allowed db s) : Extends db (e.perform s db) := by
  refine ⟨s, fun t r howns => ?_⟩
  obtain ⟨names', name, hnames', hmem⟩ := howns
  rw [collections_perform ha] at hnames'
  split at hnames'
  · next hst =>
    obtain ⟨names, hnames, rfl⟩ := Option.map_eq_some_iff.1 hnames'
    have hold (hmem : (name, r) ∈ names) : db.Owns t r ∨ (db.roots.length ≤ r ∧ t = s) :=
      .inl ⟨names, name, hnames, hmem⟩
    cases e with
    | create made =>
      rcases Bindings.mem_insert hmem with hmem | ⟨-, rfl⟩
      · exact hold hmem
      · exact .inr ⟨Nat.le_refl _, hst.symm⟩
    | dismiss gone => exact hold (List.mem_filter.1 hmem).1
    | put r' id fields words => exact hold hmem
    | patch r' selects p => exact hold hmem
    | discard r' selects => exact hold hmem
  · exact .inl ⟨names', name, hnames', hmem⟩

/-! ## Loading -/

/-- What is taken over is new data. -/
theorem le_of_mem_loadCollections (names : Bindings RootId) (db : Database)
    (members : List (String × Value)) {name : String}
    (hmem : (name, r) ∈ (loadCollections names db members).1) :
    (name, r) ∈ names ∨ db.roots.length ≤ r := by
  fun_induction loadCollections names db members with
  | case1 names db => exact .inl hmem
  | case2 names db made members rest entries generation hload root db' hadd ih =>
    obtain ⟨rfl, rfl⟩ := Prod.mk.inj hadd
    rcases ih hmem with hmem | hle
    · exact (Bindings.mem_insert hmem).imp_right fun h => Nat.le_of_eq h.2.symm
    · exact .inr (Nat.le_trans (by simp) hle)
  | case3 names db entry rest hobj ih => exact ih hmem

/-- A store that is initialized names new data. -/
theorem owns_init (h : db.init s = .ok db') (howns : db'.Owns t r) :
    db.Owns t r ∨ (db.roots.length ≤ r ∧ t = s) := by
  rcases init_eq_ok h with ⟨-, rfl⟩ | ⟨snapshot, names, db₁, hnone, -, hsnapshot, rfl⟩
  · exact .inl howns
  obtain ⟨hl, -⟩ := loaded_loadSnapshot hsnapshot
  obtain ⟨names', name, hnames', hmem⟩ := howns
  rw [collections_modifyStore, hl.stores] at hnames'
  by_cases hst : s = t
  · simp only [if_pos hst] at hnames'
    obtain ⟨store, -, hstore⟩ := Option.bind_eq_some_iff.1 hnames'
    cases hstore
    -- only a snapshot that is an object has names
    cases snapshot with
    | none => cases hsnapshot; cases hmem
    | some value =>
      cases value with
      | object members =>
        have hnames : names = (loadCollections [] db members).1 :=
          congrArg Prod.fst (Except.ok.inj hsnapshot).symm
        rw [hnames] at hmem
        rcases le_of_mem_loadCollections [] db members hmem with hmem | hle
        · cases hmem
        · exact .inr ⟨hle, hst.symm⟩
      | null => cases hsnapshot; cases hmem
      | _ => cases hsnapshot
  · simp only [if_neg hst] at hnames'
    exact .inl ⟨names', name, hnames', hmem⟩

end Database

namespace Session

open Database

variable {x x' : Session} {a : Action} {s : StoreId} {r : RootId} {v : View} {reply : Reply}

/-- **A step gives names to new data of one store at most.** -/
theorem extends_step (hx : x.Sound) (a : Action) : Extends x.database (x.step a).1.database := by
  rcases database_step hx a with hf | ⟨config, db, rfl, hf, hinit⟩
  · have heffect : Extends x.database (x.effect a) := by
      rcases effect_cases x a with ⟨s, e, he, heq⟩ | ⟨-, heq | ⟨s, rfl, -, hinit⟩ | ⟨h, rfl, heq⟩⟩
      · obtain ⟨s₀, hextends⟩ := extends_perform (hx.allowed he)
        rw [heq]
        refine ⟨s₀, fun t r howns => hextends t r ?_⟩
        exact (owns_congr (sameData_mark.collections t)).1 howns
      · exact heq ▸ .of_collections fun _ => rfl
      · exact ⟨s, fun t r howns => owns_init hinit howns⟩
      · exact heq ▸ .of_collections fun _ => rfl
    obtain ⟨s₀, hextends⟩ := heffect
    exact ⟨s₀, fun t r howns => hextends t r ((owns_congr (hf.sameData.collections t)).1 howns)⟩
  · refine ⟨db.stores.length, fun t r howns => ?_⟩
    have hbefore {t : StoreId} {r : RootId} (howns : (db.addStore config).2.Owns t r) :
        x.database.Owns t r := by
      rwa [owns_congr (collections_addStore config t), owns_congr (hf.sameData.collections t)]
        at howns
    have hroots : (db.addStore config).2.roots.length = x.database.roots.length :=
      congrArg List.length hf.sameData.roots
    exact (owns_init hinit howns).imp hbefore fun h => ⟨hroots ▸ h.1, h.2⟩

/-! ## Views and handles -/

/-- How a view that is held after an operation came to its data: from a view
that was held, or from the store that names the data. -/
def Inherits (x : Session) (db : Database) (v : View) : Prop :=
  (∃ name w, x.views.get? name = some w ∧ w.store = v.store ∧ w.root = v.root) ∨
    db.Owns v.store v.root

theorem inherits_bindView (x' : Session) {bind name : String} {w : View}
    (hw : Inherits x x'.database w) (hkept : x'.views = x.views)
    (hget : (x'.bindView bind w).2.views.get? name = some v) : Inherits x x'.database v := by
  rcases get?_bindView hget with rfl | hget
  · exact hw
  · exact .inl ⟨name, v, hkept ▸ hget, rfl, rfl⟩

theorem inherits_onStore (hx : x.Sound) (hs : x.store = some s) {a : StoreAction}
    (ho : x.onStore s a = .ok (reply, x')) {name : String} (hget : x'.views.get? name = some v) :
    Inherits x x'.database v := by
  cases after_onStore ho with
  | @created made bind he =>
    have ha : (Edit.create made).Allowed x.database s :=
      hx.allowed (edit?_onStore_eq_some_iff (a := .createCollection made bind).2 ⟨hs, he⟩)
    refine inherits_bindView { x with database := _ } (.inr ?_) rfl hget
    obtain ⟨names, hnames⟩ := Option.isSome_iff_exists.1 (isSome_of_allowed ha)
    have htouch : SameData _ (((Edit.create made).perform s x.database).touch s) :=
      sameData_touch
    refine ⟨names.insert made x.database.roots.length, made, ?_, ?_⟩
    · show (((Edit.create made).perform s x.database).touch s).collections? s = _
      rw [htouch.collections, collections_perform ha, if_pos rfl, hnames]
      rfl
    · exact Bindings.mem_of_get? (by rw [Bindings.get?_insert, if_pos rfl]; rfl)
  | @found made bind names r hnames hroot =>
    refine inherits_bindView x (.inr ?_) rfl hget
    exact ⟨names, made, hnames, Bindings.mem_of_get? hroot⟩
  | _ => exact .inl ⟨name, v, hget, rfl, rfl⟩

theorem inherits_onView (hx : x.Sound) {view : String} {w : View}
    (hw : x.views.get? view = some w) {a : ViewAction} (ho : x.onView w a = .ok (reply, x'))
    {name : String} (hget : x'.views.get? name = some v) : Inherits x x'.database v := by
  -- whatever is derived from a view is a view of the same data
  have hderived (w' : View) {bind : String} (hstore : w.store = w'.store)
      (hroot : w.root = w'.root) (hget : (x.bindView bind w').2.views.get? name = some v) :
      Inherits x x.database v :=
    inherits_bindView x (.inl ⟨view, w, hw, hstore, hroot⟩) rfl hget
  cases after_onView hx hw ho with
  | options bind options he => exact hderived { w with options } rfl rfl hget
  | filter bind f he => exact hderived (w.filter x.database f) rfl rfl hget
  | _ => exact .inl ⟨name, v, hget, rfl, rfl⟩

/-- **Where the views after a step got their data from.** -/
theorem inherits_step (hx : x.Sound) {a : Action} {name : String}
    (hget : (x.step a).1.views.get? name = some v) : Inherits x (x.step a).1.database v := by
  have hsame (hget : x.views.get? name = some v) {db : Database} : Inherits x db v :=
    .inl ⟨name, v, hget, rfl, rfl⟩
  have hreleased {x' : Session} (h : Inherits x x'.database v) : Inherits x x'.release.database v :=
    h.imp_right (owns_congr ((upkept_release x').sameData.collections v.store)).2
  cases hx.way a with
  | refused hstep hedit heffect => rw [hstep] at hget ⊢; exact hsame hget
  | onStore hs ho hstep => rw [hstep] at hget ⊢; exact hreleased (inherits_onStore hx hs ho hget)
  | onView hw ho hstep => rw [hstep] at hget ⊢; exact hreleased (inherits_onView hx hw ho hget)
  | @onHandle handle h a done hhandle ho hstep =>
    have hviews : done.2.views = x.views := by
      obtain ⟨reply, x'⟩ := done
      cases after_onHandle hx ho <;> rfl
    rw [hstep] at hget ⊢
    exact hsame (hviews ▸ hget)
  | onHost a => cases a <;> exact hsame hget
  | drop => cases hget
  | reopen config =>
    have hviews : (x.step (.reopen config)).1.views = x.views := by
      simp only [step, reopen]
      split <;> rfl
    exact hsame (hviews ▸ hget)
  | wait nanos => exact hsame hget

/-! ## The invariant -/

/-- **No two stores name the same data**, and the views and handles of data
that a store names go through that store. -/
structure Owned (x : Session) : Prop where
  apart : ∀ s t r, x.database.Owns s r → x.database.Owns t r → s = t
  view : ∀ name v, x.views.get? name = some v → ∀ s, x.database.Owns s v.root → v.store = s
  handle : ∀ name h, x.handles.get? name = some h → ∀ s, x.database.Owns s h.root → h.store = s

theorem owned_start (host : Host) (config : Config) (words : List UInt32) :
    (start host config words).Owned where
  apart s t r howns := by
    obtain ⟨names, name, hnames, -⟩ := howns
    cases s <;> cases hnames
  view _ _ hget := by cases hget
  handle _ _ hget := by cases hget

/-- **A step keeps data with its store.** -/
theorem Owned.step (h : x.Owned) (hx : x.Sound) (a : Action) : (x.step a).1.Owned := by
  obtain ⟨s₀, hextends⟩ := extends_step hx a
  -- of data that was there, no store is the owner that was not
  have hold {s : StoreId} {r : RootId} (hr : r < x.database.roots.length)
      (howns : (x.step a).1.database.Owns s r) : x.database.Owns s r :=
    (hextends s r howns).resolve_right fun hnew => Nat.not_le.2 hr hnew.1
  have hapart : ∀ s t r, (x.step a).1.database.Owns s r → (x.step a).1.database.Owns t r →
      s = t := by
    intro s t r hs ht
    rcases Nat.lt_or_ge r x.database.roots.length with hr | hr
    · exact h.apart s t r (hold hr hs) (hold hr ht)
    · have hnew {s : StoreId} (howns : (x.step a).1.database.Owns s r) : s = s₀ := by
        rcases hextends s r howns with hbefore | ⟨-, heq⟩
        · exact absurd (hx.database.lt_of_owns hbefore) (Nat.not_lt.2 hr)
        · exact heq
      rw [hnew hs, hnew ht]
  refine ⟨hapart, fun name v hget s howns => ?_, fun name d hget s howns => ?_⟩
  · rcases inherits_step hx hget with ⟨name', w, hw, hstore, hroot⟩ | hfound
    · rw [← hstore]
      rw [← hroot] at howns
      exact h.view name' w hw s (hold (hx.view name' w hw).root howns)
    · exact hapart _ _ _ hfound howns
  · rcases handle_step hx hget with hd | ⟨view, w, id, hw, rfl⟩
    · exact h.handle name d hd s (hold (hx.handle name d hd).root howns)
    · exact h.view view w hw s (hold (hx.view view w hw).root howns)

theorem Owned.moment (h : x.Owned) (hx : x.Sound) (actions : List Action) (t : Nat) :
    (x.moment actions t).Owned := by
  have hboth : (x.moment actions t).Sound ∧ (x.moment actions t).Owned := by
    refine moment_induction (P := fun x => x.Sound ∧ x.Owned) ⟨hx, h⟩ (fun x a _ h => ?_) t
    exact ⟨h.1.step a, h.2.step h.1 a⟩
  exact hboth.2

/-! ## Snapshots -/

/-- **The names of a store** are changed only by edits through it, once it is
initialized. -/
theorem collections_step (hx : x.Sound) {names : Bindings RootId}
    (hnames : x.database.collections? s = some names) (hnot : ∀ e, x.edit? a ≠ some (s, e)) :
    (x.step a).1.database.collections? s = some names := by
  have hinit {db db' : Database} {t : StoreId} (hdb : db.collections? s = some names)
      (hi : db.init t = .ok db') : db'.collections? s = some names := by
    rcases collections_init hi s with hsame | ⟨-, hnone, -⟩
    · rw [hsame, hdb]
    · rw [hdb] at hnone
      cases hnone
  rcases database_step hx a with hf | ⟨config, db, rfl, hf, hi⟩
  · rw [hf.sameData.collections]
    rcases effect_cases x a with ⟨t, e, he, heq⟩ | ⟨-, heq | ⟨t, rfl, -, hi⟩ | ⟨h, rfl, heq⟩⟩
    · have hne : t ≠ s := by
        rintro rfl
        exact hnot e he
      rw [heq, sameData_mark.collections, collections_perform (hx.allowed he), if_neg hne, hnames]
    · rw [heq, hnames]
    · exact hinit hnames hi
    · rw [heq]
      exact hnames
  · refine hinit ?_ hi
    rw [collections_addStore, hf.sameData.collections, hnames]

/-- An edit of a collection goes through a view or a handle of it. -/
theorem Owned.store_of_edit? (h : x.Owned) {t : StoreId} {e : Edit}
    (he : x.edit? a = some (t, e)) (hr : e.root? = some r) (howns : x.database.Owns s r) :
    t = s := by
  cases a with
  | onStore a =>
    obtain ⟨name, rfl | rfl⟩ := exists_name_of_edit? (edit?_onStore_eq_some_iff.1 he).2 <;>
      cases hr
  | onView view a =>
    obtain ⟨v, hview, rfl, hedit⟩ := edit?_onView_eq_some_iff.1 he
    have hroot : v.root = r := Option.some.inj ((View.root_of_edit? hedit).symm.trans hr)
    exact h.view view v hview s (hroot ▸ howns)
  | onHandle handle a =>
    obtain ⟨d, hhandle, rfl, hedit⟩ := edit?_onHandle_eq_some_iff.1 he
    have hroot : d.root = r := Option.some.inj ((Handle.root_of_edit? hedit).symm.trans hr)
    exact h.handle handle d hhandle s (hroot ▸ howns)
  | _ => cases he

/-- A snapshot is made of the names of a store and the data they are of. -/
theorem snapshot?_congr {db db' : Database} (hnames : db'.collections? s = db.collections? s)
    (hentries : ∀ r, db.Owns s r → db'.entries r = db.entries r) :
    db'.snapshot? s = db.snapshot? s := by
  rw [Database.snapshot?, Database.snapshot?, hnames]
  cases hc : db.collections? s with
  | none => rfl
  | some names =>
    refine congrArg (fun members => some (Value.object members)) (List.map_congr_left ?_)
    rintro ⟨name, r⟩ hmem
    exact congrArg (fun entries => (name, Entries.toValue entries))
      (hentries r ⟨names, name, hc, hmem⟩)

/-- **The snapshot of a store is changed only by operations through it**, once
it has one. -/
theorem snapshot?_step (hx : x.Sound) (h : x.Owned) {snapshot : Value}
    (hsnapshot : x.database.snapshot? s = some snapshot)
    (hnot : ∀ e, x.edit? a ≠ some (s, e)) :
    (x.step a).1.database.snapshot? s = some snapshot := by
  obtain ⟨names, hnames, -⟩ := Option.map_eq_some_iff.1 hsnapshot
  rw [← hsnapshot]
  refine snapshot?_congr ((collections_step hx hnames hnot).trans hnames.symm) fun r howns => ?_
  rcases entries_step hx a r with ⟨t, e, he, -, hrewrite⟩ | ⟨-, hsame⟩ | ⟨-, hnew, -⟩
  · rw [hrewrite]
    refine e.rewrite_of_ne fun hr => ?_
    exact hnot e (h.store_of_edit? he hr howns ▸ he)
  · exact hsame
  · exact absurd (hx.database.lt_of_owns howns) (Nat.not_lt.2 hnew)

end Session

end DocumentStore
