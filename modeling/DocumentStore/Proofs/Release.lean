import DocumentStore.Proofs.WriteBack

/-!
# Release — giving up what nothing holds

After every step the stores that nothing of the session holds are given up: their
workers flush them a last time and exit. So before a step no such store has a
worker that is still there, and a worker exited only if nothing holds its store
(`Released`, `Released.step`), since what nothing holds once is never held again
(`Outcome.holds`). To give up stores again does nothing (`Released.release_eq`).

The mode a store was made with never changes, and a debounced store is one that
has a worker (`isSome_worker?`).
-/

namespace DocumentStore

namespace Database

variable {db db' : Database} {s t : StoreId} {e : Edit} {w : Worker} {signal : Signal}

/-! ## Modes -/

theorem mode?_mark : (db.mark s).mode? t = db.mode? t :=
  keeps_mark (fun _ _ => rfl) (fun _ _ => rfl) t

/-- **Upkeep keeps the modes.** -/
theorem Upkept.mode? (h : Upkept db db') : db'.mode? t = db.mode? t :=
  h.keeps (fun _ _ => rfl) (fun _ _ => rfl) (fun _ _ => rfl) t

theorem mode?_perform : (e.perform s db).mode? t = db.mode? t := keeps_perform (fun _ _ => rfl) t

theorem mode?_init (h : db.init s = .ok db') : db'.mode? t = db.mode? t :=
  keeps_init (fun _ _ => rfl) h t

/-- A store that is added has the mode it is made with. -/
theorem mode?_addStore (config : Config) : (db.addStore config).2.mode? t =
    if t = db.stores.length then some config.writeBack else db.mode? t := by
  rw [mode?, getElem?_addStore]
  split
  · rfl
  · rfl

/-- Whether a store persists by itself, given time. -/
def isDebounced (db : Database) (s : StoreId) : Bool := (db.mode? s).any WriteBackMode.isDebounced

theorem isDebounced_congr (h : db'.mode? s = db.mode? s) :
    db'.isDebounced s = db.isDebounced s := by
  rw [isDebounced, isDebounced, h]

/-- The mode of a store that has a worker. -/
theorem mode?_of_worker? (h : db.worker? s = some w) : db.mode? s = some (.debounced w.delay) := by
  obtain ⟨store, hstore, hw⟩ := Option.bind_eq_some_iff.1 h
  have hdelay := store.delay_worker
  rw [hw, Option.map_some] at hdelay
  rw [mode?, hstore, Option.map_some]
  cases hmode : store.config.writeBack with
  | debounced delay =>
    rw [hmode] at hdelay
    rw [Option.some.inj hdelay]
  | immediate => rw [hmode] at hdelay; cases hdelay
  | manual => rw [hmode] at hdelay; cases hdelay

/-- **The debounced stores are those that have workers.** -/
theorem isSome_worker? : (db.worker? s).isSome = db.isDebounced s := by
  unfold worker? isDebounced mode?
  cases db.stores[s]? with
  | none => rfl
  | some store =>
    show store.worker.isSome = store.config.writeBack.delay?.isSome
    rw [← store.delay_worker, Option.isSome_map]

theorem exists_phase?_iff : (∃ phase, db.phase? s = some phase) ↔ db.isDebounced s = true := by
  rw [← isSome_worker?, ← Option.isSome_iff_exists, phase?, Option.isSome_map]

/-! ## Workers that are told nothing new -/

/-- Signals that are received to no effect. -/
theorem foldl_signal_of_idle {ss : List StoreId}
    (h : ∀ s ∈ ss, ∀ w, db.worker? s = some w → w.receive signal = (w, false)) :
    ss.foldl (fun db s => db.signal s signal) db = db := by
  induction ss with
  | nil => rfl
  | cons s rest ih =>
    rw [List.foldl_cons, signal_of_idle (h s List.mem_cons_self)]
    exact ih fun t ht => h t (List.mem_cons_of_mem _ ht)

/-- A worker that is added waits for a mutation. -/
theorem phase?_addStore (config : Config) : (db.addStore config).2.phase? t =
    if t = db.stores.length then config.writeBack.delay?.map fun _ => .idle
    else db.phase? t := by
  unfold phase? worker?
  rw [getElem?_addStore]
  split
  · show (config.writeBack.delay?.map Worker.start).map Worker.phase = _
    rw [Option.map_map]
    rfl
  · rfl

end Database

namespace Session

open Database

variable {x x' : Session} {a : Action} {s : StoreId} {v : View} {h : Handle}

/-! ## What holds a store -/

theorem holds_iff : x.holds s = true ↔ x.store = some s ∨
    (∃ name v, (name, v) ∈ x.views ∧ v.store = s) ∨
      ∃ name h, (name, h) ∈ x.handles ∧ h.store = s := by
  simp only [holds, Bool.or_eq_true, beq_iff_eq, List.any_eq_true, Prod.exists, or_assoc]

theorem holds_of_view {view : String} (hview : x.views.get? view = some v) :
    x.holds v.store = true :=
  holds_iff.2 (.inr (.inl ⟨view, v, Bindings.mem_of_get? hview, rfl⟩))

theorem holds_of_handle {handle : String} (hhandle : x.handles.get? handle = some h) :
    x.holds h.store = true :=
  holds_iff.2 (.inr (.inr ⟨handle, h, Bindings.mem_of_get? hhandle, rfl⟩))

/-- An edit goes through a store that is held. -/
theorem holds_of_edit? {e : Edit} (he : x.edit? a = some (s, e)) : x.holds s = true := by
  cases a with
  | onStore a => exact holds_iff.2 (.inl (edit?_onStore_eq_some_iff.1 he).1)
  | onView view a =>
    obtain ⟨v, hview, rfl, -⟩ := edit?_onView_eq_some_iff.1 he
    exact holds_of_view hview
  | onHandle handle a =>
    obtain ⟨h, hhandle, rfl, -⟩ := edit?_onHandle_eq_some_iff.1 he
    exact holds_of_handle hhandle
  | _ => cases he

/-- A view that is kept holds no store that was not held. -/
theorem holds_bindView {bind : String} (hv : x.holds v.store = true)
    (hs : (x.bindView bind v).2.holds s = true) : x.holds s = true := by
  rcases holds_iff.1 hs with hstore | ⟨name, w, hw, rfl⟩ | hhandle
  · exact holds_iff.2 (.inl hstore)
  · rcases Bindings.mem_insert hw with hw | ⟨-, rfl⟩
    · exact holds_iff.2 (.inr (.inl ⟨name, w, hw, rfl⟩))
    · exact hv
  · exact holds_iff.2 (.inr (.inr hhandle))

theorem holds_bindHandle {bind : String} (hh : x.holds h.store = true)
    (hs : (x.bindHandle bind h).2.holds s = true) : x.holds s = true := by
  rcases holds_iff.1 hs with hstore | hview | ⟨name, g, hg, rfl⟩
  · exact holds_iff.2 (.inl hstore)
  · exact holds_iff.2 (.inr (.inl hview))
  · rcases Bindings.mem_insert hg with hg | ⟨-, rfl⟩
    · exact holds_iff.2 (.inr (.inr ⟨name, g, hg, rfl⟩))
    · exact hh

/-- **What nothing holds is not held again**, whatever the operation. -/
theorem Outcome.holds (ho : Outcome x a x') (hs : x'.holds s = true) : x.holds s = true := by
  cases ho with
  | database hf => exact hs
  | created bind he =>
    have hheld := holds_of_edit? he
    exact holds_bindView (x := { x with database := _ }) hheld hs
  | found name bind he hstore _ _ => exact holds_bindView (holds_iff.2 (.inl hstore)) hs
  | @options view w bind options he hview =>
    have hheld : x.holds ({ w with options } : View).store = true := holds_of_view (v := w) hview
    exact holds_bindView hheld hs
  | @filter view w bind f he hview =>
    have hheld : x.holds (w.filter x.database f).store = true := holds_of_view (v := w) hview
    exact holds_bindView hheld hs
  | @handle view w bind id he hview =>
    have hheld : x.holds w.store = true := holds_of_view hview
    exact holds_bindHandle hheld hs
  | dropped he => simp [Session.holds] at hs

/-! ## Stores given up -/

@[simp] theorem holds_release : x.release.holds s = x.holds s := rfl

/-- The workers after the stores that nothing holds were given up. -/
theorem worker?_release : x.release.database.worker? s =
    if x.holds s = false then (x.database.worker? s).map fun w => (w.receive .disconnect).1
    else x.database.worker? s := by
  unfold release
  rw [worker?_foldl_signal]
  -- a store that is not there is given up by nobody, but then it has no worker either
  rcases Nat.lt_or_ge s x.database.stores.length with hs | hs
  · simp [hs]
  · have hnone : x.database.worker? s = none := by rw [worker?, List.getElem?_eq_none hs]; rfl
    simp [hnone]

/-- **Nothing is left behind**: stores are attended to, a worker exited only if
nothing holds its store, and one whose store nothing holds is gone. -/
structure Released (x : Session) : Prop where
  attended : x.database.Attended
  exited : ∀ s, x.database.phase? s = some .exited → x.holds s = false
  gone : ∀ s phase, x.database.phase? s = some phase → x.holds s = false → phase.isGone = true

/-- Stores that are given up once need not be given up again. -/
theorem Released.release_eq (h : x.Released) : x.release = x := by
  have hgiven : ((List.range x.database.stores.length).filter fun s => !x.holds s).foldl
      (fun db s => db.signal s .disconnect) x.database = x.database := by
    refine foldl_signal_of_idle fun s hs w hw => ?_
    have hheld : x.holds s = false := by simpa using (List.mem_filter.1 hs).2
    have hgone := h.gone s w.phase (by rw [phase?, hw]; rfl) hheld
    simp [Worker.receive, Phase.turn_of_isGone hgone]
  unfold release
  dsimp only
  rw [hgiven]

/-- What nothing holds is clean, unless its worker died. -/
theorem Released.clean (h : x.Released) (hheld : x.holds s = false)
    (hlive : x.database.phase? s ≠ some .panicked) (hdeb : x.database.isDebounced s = true) :
    x.database.isDirty s = false := by
  obtain ⟨phase, hphase⟩ := exists_phase?_iff.2 hdeb
  have hgone := h.gone s phase hphase hheld
  cases phase with
  | idle => cases hgone
  | armed deadline => cases hgone
  | exited => exact h.attended.clean hphase (.inr rfl)
  | panicked => exact absurd hphase hlive

/-- **Giving up stores leaves none behind.** -/
theorem released_release (hattended : x.database.Attended)
    (hexited : ∀ s, x.database.phase? s = some .exited → x.holds s = false) :
    x.release.Released where
  attended := hattended.upkept (upkept_release x)
  exited s hs := by
    rw [holds_release]
    cases hheld : x.holds s with
    | false => rfl
    | true =>
      rw [phase?, worker?_release, if_neg (by simp [hheld])] at hs
      exact hheld.symm.trans (hexited s hs)
  gone s phase hphase hheld := by
    rw [holds_release] at hheld
    rw [phase?, worker?_release, if_pos hheld, Option.map_map] at hphase
    obtain ⟨w, -, rfl⟩ := Option.map_eq_some_iff.1 hphase
    exact Phase.isGone_turn_disconnect

/-- The store of a new session has a worker that waits for a mutation, if it has
one. -/
theorem phase?_start {host : Host} {config : Config} {words : List UInt32} {phase : Phase}
    (h : (start host config words).database.phase? s = some phase) : s = 0 ∧ phase = .idle := by
  have hstart : (start host config words).database = ((Database.new host words).addStore config).2 :=
    rfl
  rw [hstart, phase?_addStore] at h
  split at h
  · next hs =>
    obtain ⟨delay, -, rfl⟩ := Option.map_eq_some_iff.1 h
    exact ⟨hs, rfl⟩
  · simp [phase?, worker?, Database.new] at h

theorem released_start (host : Host) (config : Config) (words : List UInt32) :
    (start host config words).Released := by
  refine ⟨fun s _ _ hdirty => ?_, fun s hs => ?_, fun s phase hs hheld => ?_⟩
  · have hclean : (start host config words).database.isDirty s = false := by cases s <;> rfl
    rw [hclean] at hdirty
    cases hdirty
  · cases (phase?_start hs).2
  · obtain ⟨rfl, -⟩ := phase?_start hs
    cases hheld

/-- What an operation does before it persists leaves stores attended to, -/
theorem Released.attended_effect (h : x.Released) (a : Action) : (x.effect a).Attended := by
  rcases effect_cases x a with ⟨t, e, he, heq⟩ | ⟨-, heq | ⟨t, rfl, -, hinit⟩ | ⟨ha, rfl, heq⟩⟩
  · -- the worker of a store that is held has not exited
    have hhere : (e.perform t x.database).phase? t ≠ some .exited := by
      rw [phase?_congr (keeps_perform fun _ _ => rfl)]
      intro hexited
      exact Bool.false_ne_true ((h.exited t hexited).symm.trans (holds_of_edit? he))
    have hperformed : (e.perform t x.database).Attended :=
      h.attended.congr (keeps_perform fun _ _ => rfl) (keeps_perform fun _ _ => rfl)
    exact heq ▸ attended_mark hperformed hhere
  · exact heq ▸ h.attended
  · exact h.attended.congr (keeps_init (fun _ _ => rfl) hinit) (keeps_init (fun _ _ => rfl) hinit)
  · rw [heq]
    exact h.attended

/-- and makes no worker exit. -/
theorem exited_of_effect (hs : (x.effect a).phase? s = some .exited) :
    x.database.phase? s = some .exited := by
  rcases effect_cases x a with ⟨t, e, -, heq⟩ | ⟨-, heq | ⟨t, rfl, -, hinit⟩ | ⟨ha, rfl, heq⟩⟩
  · have hexited := exited_of_mark (heq ▸ hs)
    rwa [phase?_congr (keeps_perform fun _ _ => rfl)] at hexited
  · exact heq ▸ hs
  · rwa [phase?_congr (keeps_init (fun _ _ => rfl) hinit)] at hs
  · rwa [heq] at hs

/-- And so does the rest of it, before stores are given up. -/
theorem Released.outcome (h : x.Released) (ho : Outcome x a x') : x'.database.Attended ∧
    ∀ s, x'.database.phase? s = some .exited → x'.holds s = false := by
  refine ⟨(h.attended_effect a).upkept ho.tended.upkept, fun s hs => ?_⟩
  have hbefore := h.exited s (exited_of_effect (ho.tended.exited s hs))
  cases hheld : x'.holds s with
  | false => rfl
  | true => exact (ho.holds hheld).symm.trans hbefore

/-! ## Reopening -/

/-- The session after it gave up the store it had. -/
def letGo (x : Session) : Session := ({ x with store := none } : Session).release

theorem upkept_letGo (x : Session) : Upkept x.database x.letGo.database :=
  upkept_release { x with store := none }

theorem holds_of_letGo (hs : x.letGo.holds s = true) : x.holds s = true := by
  simp only [letGo, holds, Bool.or_eq_true, or_assoc] at hs ⊢
  exact .inr (hs.resolve_left (by simp))

/-- **Reopening** gives up the store there was, and adds one that is initialized
where that is possible. -/
theorem reopen_cases (x : Session) (config : Config) : (x.reopen config).1 = x.letGo ∨
    ∃ db, (x.letGo.database.addStore config).2.init x.letGo.database.stores.length = .ok db ∧
      (x.reopen config).1 =
        { x.letGo with database := db, store := some x.letGo.database.stores.length } := by
  unfold reopen
  dsimp only
  split
  · next t db hopen =>
    obtain ⟨rfl, hinit⟩ := openStore_eq_ok_iff.1 hopen
    exact .inr ⟨db, hinit, rfl⟩
  · exact .inl rfl

section Opened

variable {config : Config} {db : Database}

/-- The new store is held, and what was held is. -/
theorem holds_opened : ({ x.letGo with database := db, store := some t } : Session).holds s =
    (t == s || x.letGo.holds s) := by
  simp [letGo, holds, Bool.or_assoc]

/-- The worker of the new store is at the start of its loop, and the others are
where they were. -/
theorem phase?_opened
    (hinit : (x.letGo.database.addStore config).2.init x.letGo.database.stores.length = .ok db) :
    db.phase? s = if s = x.letGo.database.stores.length then
      config.writeBack.delay?.map fun _ => .idle else x.letGo.database.phase? s := by
  rw [phase?_congr (keeps_init (fun _ _ => rfl) hinit), phase?_addStore]

theorem phase?_opened_eq_some {phase : Phase}
    (hinit : (x.letGo.database.addStore config).2.init x.letGo.database.stores.length = .ok db)
    (hphase : db.phase? s = some phase) :
    (s = x.letGo.database.stores.length ∧ phase = .idle) ∨
      (s ≠ x.letGo.database.stores.length ∧ x.letGo.database.phase? s = some phase) := by
  rw [phase?_opened hinit] at hphase
  split at hphase
  · next hnew =>
    obtain ⟨delay, -, rfl⟩ := Option.map_eq_some_iff.1 hphase
    exact .inl ⟨hnew, rfl⟩
  · next hold => exact .inr ⟨hold, hphase⟩

/-- No mark changes. -/
theorem isDirty_opened
    (hinit : (x.letGo.database.addStore config).2.init x.letGo.database.stores.length = .ok db) :
    db.isDirty s = x.letGo.database.isDirty s := by
  rw [isDirty_init hinit, isDirty_addStore]

end Opened

theorem Released.letGo (h : x.Released) : x.letGo.Released := by
  refine released_release h.attended fun s hs => ?_
  rw [← Bool.not_eq_true]
  intro hheld
  exact Bool.false_ne_true ((h.exited s hs).symm.trans (holds_of_letGo hheld))

/-- A session that opens another store has none left behind either. -/
theorem Released.reopen (h : x.Released) (config : Config) : (x.reopen config).1.Released := by
  rcases reopen_cases x config with heq | ⟨db, hinit, heq⟩
  · exact heq ▸ h.letGo
  · rw [heq]
    refine ⟨fun s phase hphase hdirty => ?_, fun s hexited => ?_, fun s phase hphase hfree => ?_⟩
    · rw [isDirty_opened hinit] at hdirty
      rcases phase?_opened_eq_some hinit hphase with ⟨rfl, -⟩ | ⟨-, hphase⟩
      · exact absurd (lt_length_of_isDirty hdirty) (Nat.lt_irrefl _)
      · exact h.letGo.attended s phase hphase hdirty
    · rcases phase?_opened_eq_some hinit hexited with ⟨-, hidle⟩ | ⟨hold, hexited⟩
      · cases hidle
      · rw [holds_opened, h.letGo.exited s hexited, Bool.or_false, beq_eq_false_iff_ne]
        exact hold.symm
    · rw [holds_opened, Bool.or_eq_false_iff, beq_eq_false_iff_ne] at hfree
      rcases phase?_opened_eq_some hinit hphase with ⟨rfl, -⟩ | ⟨-, hphase⟩
      · exact absurd rfl hfree.1
      · exact h.letGo.gone s phase hphase hfree.2

/-! ## Steps -/

/-- **A step leaves no store behind**, whatever it is. -/
theorem Released.step (h : x.Released) (hx : x.Sound) (a : Action) : (x.step a).1.Released := by
  have hgiven {a : Action} {x' : Session} (ho : Outcome x a x') : x'.release.Released :=
    released_release (h.outcome ho).1 (h.outcome ho).2
  cases hx.way a with
  | refused hstep _ _ => exact (congrArg Prod.fst hstep) ▸ h
  | onStore hs ho hstep => exact (congrArg Prod.fst hstep) ▸ hgiven (outcome_onStore hx hs ho)
  | onView hview ho hstep => exact (congrArg Prod.fst hstep) ▸ hgiven (outcome_onView hx hview ho)
  | onHandle hhandle ho hstep =>
    exact (congrArg Prod.fst hstep) ▸ hgiven (outcome_onHandle hx hhandle ho)
  | onHost a => cases a <;> exact ⟨h.attended, h.exited, h.gone⟩
  | drop => exact hgiven (a := .drop) (.dropped rfl)
  | reopen config => exact h.reopen config
  | wait nanos =>
    have ho : Outcome x (.wait nanos) { x with
        database := x.database.elapse (x.database.clock + nanos) } := .database (tended_elapse _)
    obtain ⟨hattended, hexited⟩ := h.outcome ho
    refine ⟨hattended, hexited, fun s phase hphase hheld => ?_⟩
    -- a worker that is gone was so before, and stays where it is
    have hdeb : x.database.isDebounced s = true :=
      (isDebounced_congr ho.tended.upkept.mode?).symm.trans (exists_phase?_iff.1 ⟨phase, hphase⟩)
    obtain ⟨before, hbefore⟩ := exists_phase?_iff.2 hdeb
    have hgone := h.gone s before hbefore hheld
    have hstill := ho.tended.upkept.phase?_of_isGone hbefore hgone
    rw [show phase = before from Option.some.inj (hphase.symm.trans hstill)]
    exact hgone

theorem Released.moment (h : x.Released) (hx : x.Sound) (actions : List Action) (t : Nat) :
    (x.moment actions t).Released := by
  have hboth : (x.moment actions t).Sound ∧ (x.moment actions t).Released :=
    moment_induction (P := fun y => y.Sound ∧ y.Released) ⟨hx, h⟩
      (fun _ a _ h => ⟨h.1.step a, h.2.step h.1 a⟩) t
  exact hboth.2

end Session

end DocumentStore
