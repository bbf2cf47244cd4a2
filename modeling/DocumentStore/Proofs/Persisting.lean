import DocumentStore.Proofs.Ownership
import DocumentStore.Proofs.Release

/-!
# Persisting — when a store persists, and what

A store that is not immediate persists at certain points only: when it is
flushed, when the deadline of its worker passes, and when, being debounced, it
is given up (`Session.PersistPoint`). At such a point it makes one attempt if it
is marked, with the snapshot it has then (`Database.Persisted`), and at all other
times none (`Database.Spared`).

Whatever flushes stores one after the other does so for each of them on a
condition (`Database.PersistsIf`): a flush on its being the store, a signal on
the worker's flushing on it too, and what is done in turn on either condition
(`PersistsIf.or`). So every operation comes to one condition for each store,
and a step to the points (`Session.persisted_step`), as long as the worker does
not panic. One that has leaves its store to the flushes it is asked for, also when
the store is given up (`Session.spared_step_of_panicked`).
-/

namespace DocumentStore

namespace Database

variable {db db₁ db₂ : Database} {s t : StoreId}

/-! ## Attempts of one store -/

/-- The attempts of a store to persist, oldest first. -/
def attempts (db : Database) (s : StoreId) : List Offer := db.offers.filter fun o => o.store == s

/-- Nothing that concerns a store's persisting happens. -/
structure Spared (s : StoreId) (db db₁ : Database) : Prop where
  attempts : db₁.attempts s = db.attempts s
  dirty : db₁.isDirty s = db.isDirty s

/-- **A store persists what it has to**: with one attempt, of the snapshot it
has, if it is marked, and with none otherwise; and then it is clean. -/
structure Persisted (s : StoreId) (db db₁ : Database) : Prop where
  clean : db₁.isDirty s = false
  attempt : db.isDirty s = true → ∃ o, o.store = s ∧ db.snapshot? s = some o.snapshot ∧
    db₁.attempts s = db.attempts s ++ [o]
  quiet : db.isDirty s = false → db₁.attempts s = db.attempts s

/-- A store persists what it has to on a condition, and not otherwise. The
data stays. -/
structure PersistsIf (p : Prop) (s : StoreId) (db db₁ : Database) : Prop where
  data : SameData db db₁
  persisted : p → Persisted s db db₁
  spared : ¬ p → Spared s db db₁

variable {p q : Prop}

theorem Spared.refl (s : StoreId) (db : Database) : Spared s db db := ⟨rfl, rfl⟩

theorem Spared.trans (h : Spared s db db₁) (h' : Spared s db₁ db₂) : Spared s db db₂ :=
  ⟨h'.attempts.trans h.attempts, h'.dirty.trans h.dirty⟩

/-- A clean store has persisted what it has to. -/
theorem persisted_of_clean (h : db.isDirty s = false) : Persisted s db db :=
  ⟨h, fun hdirty => (Bool.false_ne_true (h.symm.trans hdirty)).elim, fun _ => rfl⟩

theorem Persisted.spared (h : Persisted s db db₁) (h' : Spared s db₁ db₂) : Persisted s db db₂ where
  clean := h'.dirty.trans h.clean
  attempt hdirty := by
    obtain ⟨o, hstore, hsnapshot, hattempts⟩ := h.attempt hdirty
    exact ⟨o, hstore, hsnapshot, h'.attempts.trans hattempts⟩
  quiet hclean := h'.attempts.trans (h.quiet hclean)

namespace PersistsIf

theorem never (h : ¬ p) (db : Database) : PersistsIf p s db db :=
  ⟨SameData.refl db, fun hp => absurd hp h, fun _ => Spared.refl s db⟩

/-- A wider condition is as good where the store is clean. -/
theorem widen (h : PersistsIf p s db db₁) (hpq : p → q)
    (hclean : q → ¬ p → db.isDirty s = false) : PersistsIf q s db db₁ where
  data := h.data
  persisted hq := by
    by_cases hp : p
    · exact h.persisted hp
    · exact (persisted_of_clean (hclean hq hp)).spared (h.spared hp)
  spared hq := h.spared fun hp => hq (hpq hp)

theorem congr (h : PersistsIf p s db db₁) (hpq : p ↔ q) : PersistsIf q s db db₁ :=
  ⟨h.data, fun hq => h.persisted (hpq.2 hq), fun hq => h.spared fun hp => hq (hpq.1 hp)⟩

/-- **One condition after the other**: to persist twice is to persist once. -/
theorem or (h : PersistsIf p s db db₁) (h' : PersistsIf q s db₁ db₂) :
    PersistsIf (p ∨ q) s db db₂ where
  data := h.data.trans h'.data
  persisted hpq := by
    by_cases hp : p
    · by_cases hq : q
      · have hclean := (h.persisted hp).clean
        exact (h.persisted hp).spared ⟨(h'.persisted hq).quiet hclean,
          (h'.persisted hq).clean.trans hclean.symm⟩
      · exact (h.persisted hp).spared (h'.spared hq)
    · -- until the second condition nothing has happened
      have hq := hpq.resolve_left hp
      obtain ⟨hattempts, hdirty⟩ := h.spared hp
      refine ⟨(h'.persisted hq).clean, fun hmarked => ?_, fun hclean => ?_⟩
      · obtain ⟨o, hstore, hsnapshot, hlast⟩ := (h'.persisted hq).attempt (hdirty.trans hmarked)
        exact ⟨o, hstore, h.data.snapshot s ▸ hsnapshot, hattempts ▸ hlast⟩
      · exact ((h'.persisted hq).quiet (hdirty.trans hclean)).trans hattempts
  spared hpq := (h.spared fun hp => hpq (.inl hp)).trans (h'.spared fun hq => hpq (.inr hq))

end PersistsIf

/-! ## Flushes -/

/-- **A flush persists what its store has to**, and does not concern
another. -/
theorem persistsIf_flush (hdb : Sound db) : PersistsIf (t = s) s db (db.flush t).1 where
  data := sameData_flush
  persisted hts := by
    subst hts
    refine ⟨by rw [isDirty_flush, if_pos rfl], fun hdirty => ?_, fun hclean => ?_⟩
    · obtain ⟨v, hv, -, -, hoffers, -⟩ := flush_of_dirty hdb hdirty
      refine ⟨⟨t, v, (db.host.persist v).2⟩, rfl, hv, ?_⟩
      rw [attempts, hoffers, List.filter_append, List.filter_cons_of_pos (by simp)]
      rfl
    · rw [flush_of_clean hclean]
  spared hts := by
    refine ⟨?_, by rw [isDirty_flush, if_neg hts]⟩
    cases hdirty : db.isDirty t with
    | false => rw [flush_of_clean hdirty]
    | true =>
      obtain ⟨v, -, -, -, hoffers, -⟩ := flush_of_dirty hdb hdirty
      rw [attempts, hoffers, List.filter_append, List.filter_cons_of_neg (by simpa using hts)]
      exact List.append_nil _

/-- A touch of a store that is not immediate is a mark. -/
theorem persistsIf_touch (hdb : Sound (db.mark t)) (h : db.mode? s ≠ some .immediate) :
    PersistsIf False s (db.mark t) (db.touch t) := by
  unfold touch
  dsimp only
  split
  · next himmediate =>
    refine (persistsIf_flush hdb).congr (iff_false_intro fun hts => h ?_)
    rwa [mode?_mark, hts] at himmediate
  · exact .never id _

/-! ## Signals -/

/-- What neither attempts anything nor marks a store, nor changes the data. -/
theorem persistsIf_of_quiet (hdata : SameData db db₁) (hoffers : db₁.offers = db.offers)
    (hdirty : db₁.isDirty s = db.isDirty s) : PersistsIf False s db db₁ :=
  ⟨hdata, False.elim, fun _ => ⟨by rw [attempts, attempts, hoffers], hdirty⟩⟩

/-- **A signal persists what its store has to**, if the worker flushes on it. -/
theorem persistsIf_signal (hdb : Sound db) {signal : Signal} :
    PersistsIf (t = s ∧ db.flushesOn s signal = true) s db (db.signal t signal) := by
  have htold : PersistsIf False s db (db.tell t signal) :=
    persistsIf_of_quiet sameData_tell rfl isDirty_tell
  unfold Database.signal
  split
  · next hflush =>
    refine (htold.or (persistsIf_flush (hdb.tell t signal))).congr ?_
    rw [false_or]
    exact ⟨fun hts => ⟨hts, hts ▸ hflush⟩, And.left⟩
  · next hquiet =>
    refine htold.congr ⟨False.elim, fun h => hquiet ?_⟩
    obtain ⟨rfl, hflush⟩ := h
    exact hflush

/-- A worker that flushed on a signal does not on the next of the kind. -/
theorem flushesOn_signal {signal : Signal} : (db.signal t signal).flushesOn s signal = true ↔
    t ≠ s ∧ db.flushesOn s signal = true := by
  unfold flushesOn
  rw [worker?_signal]
  by_cases hts : t = s
  · subst hts
    cases db.worker? t with
    | none => simp
    | some w =>
      have hturn := congrArg Prod.snd (Phase.turn_turn w.delay w.phase signal)
      simpa [Worker.receive] using hturn
  · simp [hts]

/-- **Signals to several workers** persist what the stores among them have to. -/
theorem persistsIf_foldl_signal {signal : Signal} (h : ∀ time, signal ≠ .mutation time)
    (ss : List StoreId) (hdb : Sound db) : PersistsIf (s ∈ ss ∧ db.flushesOn s signal = true) s db
      (ss.foldl (fun db s => db.signal s signal) db) := by
  induction ss generalizing db with
  | nil => exact .never (fun h => by cases h.1) db
  | cons t rest ih =>
    have hfirst : PersistsIf (t = s ∧ db.flushesOn s signal = true) s db (db.signal t signal) :=
      persistsIf_signal hdb
    refine (hfirst.or (ih (hdb.upkept (.single (.signal db t h))))).congr ?_
    rw [flushesOn_signal, List.mem_cons]
    by_cases hts : t = s
    · simp [hts]
    · have hst : ¬ s = t := fun heq => hts heq.symm
      simp [hts, hst]

/-- **When time passes**, the stores persist whose deadlines it reaches. -/
theorem persistsIf_elapse (hdb : Sound db) (time : Instant) :
    PersistsIf (db.Reached s time) s db (db.elapse time) := by
  have htold : PersistsIf (s ∈ db.due time ∧ db.flushesOn s .timeout = true) s db
      ((db.due time).foldl (fun db s => db.signal s .timeout) db) :=
    persistsIf_foldl_signal (by simp) (db.due time) hdb
  refine (htold.or (persistsIf_of_quiet (sameData_clock time) rfl rfl)).congr ?_
  rw [or_false, mem_due_iff, flushesOn_timeout, and_iff_left_iff_imp]
  rintro ⟨deadline, hdeadline, -⟩
  rw [hdeadline]
  rfl

theorem lt_length_of_isDebounced (h : db.isDebounced s = true) : s < db.stores.length := by
  unfold isDebounced mode? at h
  cases hs : db.stores[s]? with
  | none => rw [hs] at h; cases h
  | some store => exact (List.getElem?_eq_some_iff.1 hs).1

/-- Only debounced stores are flushed on signals. -/
theorem isDebounced_of_flushesOn {signal : Signal} (h : db.flushesOn s signal = true) :
    db.isDebounced s = true := by
  rw [← isSome_worker?]
  unfold flushesOn at h
  cases hw : db.worker? s with
  | none => rw [hw] at h; cases h
  | some w => rfl

end Database

namespace Session

open Database

variable {x x' : Session} {s t : StoreId} {a : Action} {reply : Reply}

/-- **Waiting for a worker** persists the stores whose deadlines are reached
meanwhile. -/
theorem persistsIf_awaitTimer (hdb : x.database.Sound) (t s : StoreId) :
    PersistsIf (∃ time, x.database.awaited? t = some time ∧ x.database.Reached s time) s x.database
      (x.awaitTimer t) := by
  unfold awaitTimer
  split
  · next time hawaited =>
    refine (persistsIf_elapse hdb time).congr ⟨fun hreached => ⟨time, hawaited, hreached⟩, ?_⟩
    rintro ⟨time', hawaited', hreached⟩
    exact Option.some.inj (hawaited'.symm.trans hawaited) ▸ hreached
  · next hnone => exact .never (by simp [hnone]) _

/-- **To give up stores** persists what the debounced ones have left, if their
workers did not panic. -/
theorem persistsIf_release (hdb : x.database.Sound) (s : StoreId) :
    PersistsIf (x.database.flushesOn s .disconnect = true ∧ x.holds s = false) s x.database
      x.release.database := by
  refine (persistsIf_foldl_signal (by simp) _ hdb).congr ?_
  rw [and_comm]
  refine and_congr_right fun hflush => ?_
  simp [lt_length_of_isDebounced (isDebounced_of_flushesOn hflush)]

/-- What is attended to and has not panicked has persisted when it is given
up. -/
theorem persistsIf_given (hdb : x.database.Sound) (hattended : x.database.Attended)
    (hlive : x.database.phase? s ≠ some .panicked) :
    PersistsIf (x.database.isDebounced s = true ∧ x.holds s = false) s x.database
      x.release.database := by
  refine (persistsIf_release hdb s).widen (fun h => ⟨isDebounced_of_flushesOn h.1, h.2⟩)
    fun ⟨hdeb, hheld⟩ hquiet => ?_
  obtain ⟨phase, hphase⟩ := exists_phase?_iff.2 hdeb
  have hgone : phase.isGone = true := by
    by_contra hthere
    refine hquiet ⟨?_, hheld⟩
    rw [flushesOn_disconnect, hphase]
    simpa using hthere
  -- a worker that is gone has nothing left, or died
  cases phase with
  | idle => cases hgone
  | armed deadline => cases hgone
  | exited => exact hattended.clean hphase (.inr rfl)
  | panicked => exact absurd hphase hlive

/-- **A worker that has panicked** leaves its store as it is when that is given
up. -/
theorem spared_of_panicked (hdb : x.database.Sound)
    (hpanicked : x.database.phase? s = some .panicked) :
    Spared s x.database x.release.database := by
  refine (persistsIf_release hdb s).spared fun h => ?_
  rw [flushesOn_disconnect, hpanicked] at h
  cases h.1

/-! ## Operations -/

/-- A store is asked to persist: by a flush, by waiting for its worker, or by
the passing of its deadline while its user waits for something else. -/
inductive Asked (x : Session) (s : StoreId) : Action → Prop
  | flush (hs : x.store = some s) : Asked x s (.onStore .flush)
  | settle (hs : x.store = some s) : Asked x s (.onStore .settle)
  | beside {t : StoreId} {time : Instant} (ht : x.store = some t)
      (hawaited : x.database.awaited? t = some time) (hreached : x.database.Reached s time) :
      Asked x s (.onStore .settle)
  | wait {nanos : Nat} (hreached : x.database.Reached s (x.database.clock + nanos)) :
      Asked x s (.wait nanos)

/-- What is no flush and no waiting asks no store to persist. -/
theorem not_asked (hflush : a ≠ .onStore .flush) (hsettle : a ≠ .onStore .settle)
    (hwait : ∀ nanos, a ≠ .wait nanos) : ¬ Asked x s a := by
  intro h
  cases h with
  | flush hs => exact hflush rfl
  | settle hs => exact hsettle rfl
  | beside ht hawaited hreached => exact hsettle rfl
  | wait hreached => exact hwait _ rfl

theorem not_asked_onView {view : String} {a : ViewAction} : ¬ Asked x s (.onView view a) :=
  not_asked (by simp) (by simp) (by simp)

theorem not_asked_onHandle {handle : String} {a : HandleAction} :
    ¬ Asked x s (.onHandle handle a) :=
  not_asked (by simp) (by simp) (by simp)

/-- A store that is asked to persist is not refused that. -/
theorem Asked.answered (h : Asked x s a) : ∃ reply, (x.step a).2 = .ok reply := by
  cases h with
  | flush hs => exact ⟨_, by simp only [step, hs]; rfl⟩
  | settle hs => exact ⟨_, by simp only [step, hs]; rfl⟩
  | beside ht hawaited hreached => exact ⟨_, by simp only [step, ht]; rfl⟩
  | wait hreached => exact ⟨_, rfl⟩

/-- An operation that edits does no more for a store that is not immediate. -/
theorem persistsIf_edit {e : Edit} (hx : x.Sound) (hmode : x.database.mode? s ≠ some .immediate)
    (he : x.edit? a = some (t, e)) :
    PersistsIf False s (x.effect a) ((e.perform t x.database).touch t) := by
  have hsound := (sound_effect hx a).1
  rw [effect_of_edit? he] at hsound ⊢
  exact persistsIf_touch hsound (by rwa [mode?_perform])

theorem persistsIf_same {p : Prop} (hp : ¬ p) (he : x.effect a = x.database) :
    PersistsIf p s (x.effect a) x.database :=
  he ▸ .never hp _

/-- **What an operation on a store does** about the persisting of its own
store or another. -/
theorem persistsIf_onStore (hx : x.Sound) (hs : x.store = some t)
    (hmode : x.database.mode? s ≠ some .immediate) {a : StoreAction}
    (ho : x.onStore t a = .ok (reply, x')) :
    PersistsIf (Asked x s (.onStore a)) s (x.effect (.onStore a)) x'.database := by
  have hnone {a : StoreAction} (ha : a ≠ .init) (he : x.database.edit? t a = none) :
      x.effect (.onStore a) = x.database := effect_onStore_of_none hs ha he
  have hedit {a : StoreAction} {e : Edit} (hnot : ¬ Asked x s (.onStore a))
      (he : x.database.edit? t a = some e) : PersistsIf (Asked x s (.onStore a)) s
        (x.effect (.onStore a)) ((e.perform t x.database).touch t) := by
    have hedited := persistsIf_edit hx hmode (edit?_onStore_eq_some_iff.2 ⟨hs, he⟩)
    exact hedited.congr ⟨False.elim, hnot⟩
  cases after_onStore ho with
  | flushed =>
    rw [hnone (by simp) rfl]
    refine (persistsIf_flush hx.database).congr ⟨fun hts => .flush (hts ▸ hs), fun hasked => ?_⟩
    cases hasked with
    | flush hs' => exact Option.some.inj (hs.symm.trans hs')
  | settled =>
    rw [hnone (by simp) rfl]
    have hsound : (x.awaitTimer t).Sound := hx.database.upkept upkept_awaitTimer
    have hboth := (persistsIf_awaitTimer hx.database t s).or (persistsIf_flush (t := t) hsound)
    refine hboth.congr ⟨fun hor => ?_, fun hasked => ?_⟩
    · rcases hor with ⟨time, hawaited, hreached⟩ | hts
      · exact .beside hs hawaited hreached
      · exact .settle (hts ▸ hs)
    · cases hasked with
      | settle hs' => exact .inr (Option.some.inj (hs.symm.trans hs'))
      | @beside u time hu hawaited hreached =>
        obtain rfl := Option.some.inj (hs.symm.trans hu)
        exact .inl ⟨time, hawaited, hreached⟩
  | @initialized db hinit =>
    have heffect : x.effect (.onStore .init) = db := by simp [effect, hs, hinit, Except.toOption]
    exact heffect ▸ .never (not_asked (by simp) (by simp) (by simp)) _
  | created he => exact hedit (not_asked (by simp) (by simp) (by simp)) he
  | removed he => exact hedit (not_asked (by simp) (by simp) (by simp)) he
  | found hnames hroot =>
    exact persistsIf_same (not_asked (by simp) (by simp) (by simp)) (hnone (by simp) rfl)
  | same hinit hflush hsettle he =>
    exact persistsIf_same (not_asked (by simpa) (by simpa) (by simp)) (hnone hinit he)

/-- An operation on a view only edits. -/
theorem persistsIf_onView (hx : x.Sound) (hmode : x.database.mode? s ≠ some .immediate)
    {view : String} {v : View} (hview : x.views.get? view = some v) {a : ViewAction}
    (ho : x.onView v a = .ok (reply, x')) :
    PersistsIf False s (x.effect (.onView view a)) x'.database := by
  have hsame (he : v.edit? x.database a = none) :=
    persistsIf_same (s := s) (p := False) id (effect_onView_of_none hview he)
  cases after_onView hx hview ho with
  | edited he => exact persistsIf_edit hx hmode (edit?_onView_eq_some_iff.2 ⟨v, hview, rfl, he⟩)
  | options bind options he => exact hsame he
  | filter bind f he => exact hsame he
  | handle bind id he => exact hsame he
  | same he => exact hsame he

/-- And so does one on a handle. -/
theorem persistsIf_onHandle (hx : x.Sound) (hmode : x.database.mode? s ≠ some .immediate)
    {handle : String} {d : Handle} (hhandle : x.handles.get? handle = some d) {a : HandleAction}
    (ho : x.onHandle d a = .ok (reply, x')) :
    PersistsIf False s (x.effect (.onHandle handle a)) x'.database := by
  cases after_onHandle hx ho with
  | edited he =>
    exact persistsIf_edit hx hmode (edit?_onHandle_eq_some_iff.2 ⟨d, hhandle, rfl, he⟩)
  | same he => exact persistsIf_same id (effect_onHandle_of_none hhandle he)

/-! ## Steps -/

/-- **The points at which a store persists**: it is asked to, or it is
debounced and nothing holds it any more. -/
def PersistPoint (x : Session) (s : StoreId) (a : Action) : Prop :=
  Asked x s a ∨ (x.database.isDebounced s = true ∧ (x.step a).1.holds s = false)

/-- The effect of an operation changes no mode. -/
theorem mode?_effect (x : Session) (a : Action) (s : StoreId) :
    (x.effect a).mode? s = x.database.mode? s := by
  rcases effect_cases x a with ⟨t, e, -, heq⟩ | ⟨-, heq | ⟨t, rfl, -, hinit⟩ | ⟨h, rfl, heq⟩⟩
  · rw [heq, mode?_mark, mode?_perform]
  · rw [heq]
  · exact mode?_init hinit
  · rw [heq]
    rfl

/-- What an operation did, and the stores it gave up. -/
theorem persistsIf_conclude (hx : x.Sound) (hr : x.Released) (hstep : (x.step a).1 = x'.release)
    (hlive : (x.step a).1.database.phase? s ≠ some .panicked)
    (hdone : PersistsIf (Asked x s a) s (x.effect a) x'.database) (ho : Outcome x a x') :
    PersistsIf (PersistPoint x s a) s (x.effect a) (x.step a).1.database := by
  have hu : Upkept (x.effect a) x'.database := ho.tended.upkept
  have hsound : x'.database.Sound := (sound_effect hx a).1.upkept hu
  have hdeb : x'.database.isDebounced s = x.database.isDebounced s :=
    isDebounced_congr (hu.mode?.trans (mode?_effect x a s))
  have hgiven := persistsIf_given (s := s) hsound (hr.outcome ho).1 fun hpanicked =>
    hlive (hstep ▸ (upkept_release x').panicked_iff.2 hpanicked)
  rw [hdeb, ← hstep, ← holds_release (x := x'), ← hstep] at hgiven
  exact hdone.or hgiven

/-- A step that gives up nothing leaves nothing of what was given up before. -/
theorem persistsIf_kept (hr : x.Released) (hlive : x.database.phase? s ≠ some .panicked)
    (hheld : (x.step a).1.holds s = x.holds s)
    (hdirty : (x.effect a).isDirty s = x.database.isDirty s)
    (hdone : PersistsIf (Asked x s a) s (x.effect a) (x.step a).1.database) :
    PersistsIf (PersistPoint x s a) s (x.effect a) (x.step a).1.database := by
  refine hdone.widen .inl fun hpoint hasked => ?_
  obtain ⟨hdeb, hgiven⟩ := hpoint.resolve_left hasked
  exact hdirty.trans (hr.clean (hheld ▸ hgiven) hlive hdeb)

/-- To open a store concerns none of those there were. -/
theorem spared_reopen (x : Session) (config : Config) (s : StoreId) :
    Spared s x.letGo.database (x.reopen config).1.database ∧
      (s < x.database.stores.length → (x.reopen config).1.holds s = x.letGo.holds s ∧
        (x.reopen config).1.database.phase? s = x.letGo.database.phase? s) := by
  rcases reopen_cases x config with heq | ⟨db, hinit, heq⟩
  · rw [heq]
    exact ⟨.refl s _, fun _ => ⟨rfl, rfl⟩⟩
  · rw [heq]
    refine ⟨⟨?_, isDirty_opened hinit⟩, fun hs => ?_⟩
    · exact congrArg (List.filter fun o => o.store == s) (offers_init hinit)
    · have hne : s ≠ x.letGo.database.stores.length := by
        rw [(upkept_letGo x).sameData.length]
        exact Nat.ne_of_lt hs
      rw [holds_opened, beq_false_of_ne hne.symm, Bool.false_or]
      exact ⟨rfl, (phase?_opened hinit).trans (if_neg hne)⟩

/-- Reopening gives up the store there was, and opens another. -/
theorem persisted_reopen (hx : x.Sound) (hr : x.Released) (config : Config)
    (hlive : (x.step (.reopen config)).1.database.phase? s ≠ some .panicked) :
    (PersistPoint x s (.reopen config) →
        Persisted s x.database (x.step (.reopen config)).1.database) ∧
      (¬ PersistPoint x s (.reopen config) →
        Spared s x.database (x.step (.reopen config)).1.database) := by
  have hstep : (x.step (.reopen config)).1 = (x.reopen config).1 := rfl
  obtain ⟨hspared, hsame⟩ := spared_reopen x config s
  have hpoint : PersistPoint x s (.reopen config) ↔
      (x.database.isDebounced s = true ∧ x.letGo.holds s = false) := by
    unfold PersistPoint
    rw [or_iff_right (not_asked (by simp) (by simp) (by simp)), hstep]
    refine and_congr_right fun hdeb => ?_
    rw [(hsame (lt_length_of_isDebounced hdeb)).1]
  have hgiven : PersistsIf (x.database.isDebounced s = true ∧ x.letGo.holds s = false) s x.database
      x.letGo.database := by
    by_cases hdeb : x.database.isDebounced s = true
    · refine persistsIf_given (x := { x with store := none }) hx.database hr.attended ?_
      intro hpanicked
      rw [hstep, (hsame (lt_length_of_isDebounced hdeb)).2] at hlive
      exact hlive ((upkept_letGo x).panicked_iff.2 hpanicked)
    · refine (persistsIf_release (x := { x with store := none }) hx.database s).congr ?_
      exact iff_of_false (fun h => hdeb (isDebounced_of_flushesOn h.1)) fun h => hdeb h.1
  rw [hpoint, hstep]
  exact ⟨fun h => (hgiven.persisted h).spared hspared, fun h => (hgiven.spared h).trans hspared⟩

/-- **A store that is not immediate persists at its points, and only there**,
unless its worker panics: what an operation has not done before, in its effect,
it does about a store's persisting just if it is a point of the store. -/
theorem persisted_step (hx : x.Sound) (hr : x.Released)
    (hmode : x.database.mode? s ≠ some .immediate) (a : Action)
    (hlive : (x.step a).1.database.phase? s ≠ some .panicked) :
    (PersistPoint x s a → Persisted s (x.effect a) (x.step a).1.database) ∧
      (¬ PersistPoint x s a → Spared s (x.effect a) (x.step a).1.database) := by
  suffices h : (∃ config, a = .reopen config) ∨
      PersistsIf (PersistPoint x s a) s (x.effect a) (x.step a).1.database by
    rcases h with ⟨config, rfl⟩ | h
    · exact persisted_reopen hx hr config hlive
    · exact ⟨h.persisted, h.spared⟩
  cases hx.way a with
  | refused hstep hedit heffect =>
    have hsame : (x.step a).1 = x := congrArg Prod.fst hstep
    refine .inr (persistsIf_kept hr (hsame ▸ hlive) (by rw [hsame]) (by rw [heffect]) ?_)
    rw [hsame, heffect]
    refine .never (fun hasked => ?_) _
    obtain ⟨reply, hanswer⟩ := hasked.answered
    rw [hstep] at hanswer
    cases hanswer
  | onStore hs ho hstep =>
    exact .inr (persistsIf_conclude hx hr (congrArg Prod.fst hstep) hlive
      (persistsIf_onStore hx hs hmode ho) (outcome_onStore hx hs ho))
  | onView hview ho hstep =>
    refine .inr (persistsIf_conclude hx hr (congrArg Prod.fst hstep) hlive ?_
      (outcome_onView hx hview ho))
    exact (persistsIf_onView hx hmode hview ho).congr (iff_of_false id not_asked_onView)
  | onHandle hhandle ho hstep =>
    refine .inr (persistsIf_conclude hx hr (congrArg Prod.fst hstep) hlive ?_
      (outcome_onHandle hx hhandle ho))
    exact (persistsIf_onHandle hx hmode hhandle ho).congr (iff_of_false id not_asked_onHandle)
  | onHost a =>
    have hasked : ¬ Asked x s (.onHost a) := not_asked (by simp) (by simp) (by simp)
    have hbefore : x.database.phase? s ≠ some .panicked := by cases a <;> exact hlive
    refine .inr (persistsIf_kept hr hbefore ?_ ?_ (.never hasked _))
    · cases a <;> rfl
    · cases a <;> rfl
  | drop =>
    have hstep : (x.step .drop).1 =
      ({ x with store := none, views := [], handles := [] } : Session).release := rfl
    exact .inr (persistsIf_conclude hx hr hstep hlive
      (.never (not_asked (by simp) (by simp) (by simp)) _) (.dropped rfl))
  | reopen config => exact .inl ⟨config, rfl⟩
  | wait nanos =>
    have hu : Upkept x.database (x.step (.wait nanos)).1.database := upkept_elapse _
    refine .inr (persistsIf_kept hr (fun h => hlive (hu.panicked_iff.2 h)) rfl rfl ?_)
    refine (persistsIf_elapse hx.database _).congr ⟨.wait, fun hasked => ?_⟩
    cases hasked with
    | wait hreached => exact hreached

/-! ## Workers that panicked -/

/-- No operation brings back a worker that has panicked. -/
theorem panicked_effect (h : x.database.phase? s = some .panicked) :
    (x.effect a).phase? s = some .panicked := by
  rcases effect_cases x a with ⟨t, e, -, heq⟩ | ⟨-, heq | ⟨t, rfl, -, hinit⟩ | ⟨ha, rfl, heq⟩⟩
  · rw [← phase?_congr (keeps_perform (s := t) (e := e) fun _ _ => rfl)] at h
    exact heq ▸ phase?_of_isGone_of_turned worker?_mark h rfl
  · rwa [heq]
  · rwa [phase?_congr (keeps_init (fun _ _ => rfl) hinit)]
  · rwa [heq]

/-- **A store whose worker has panicked** is persisted by no operation but a flush
or what waits for one, and is left as it is when nothing holds it any more. -/
theorem spared_step_of_panicked (hx : x.Sound) (h : x.database.phase? s = some .panicked)
    (hflush : a ≠ .onStore .flush) (hsettle : a ≠ .onStore .settle) :
    Spared s (x.effect a) (x.step a).1.database := by
  have hmode : x.database.mode? s ≠ some .immediate := by
    obtain ⟨w, hw, -⟩ := Option.map_eq_some_iff.1 h
    simp [mode?_of_worker? hw]
  have hreached (time : Instant) : ¬ x.database.Reached s time := by
    rintro ⟨deadline, hdeadline, -⟩
    rw [deadline?, h] at hdeadline
    cases hdeadline
  have hasked : ¬ Asked x s a := by
    intro hasked
    cases hasked with
    | flush hs => exact hflush rfl
    | settle hs => exact hsettle rfl
    | beside ht hawaited hdue => exact hsettle rfl
    | wait hdue => exact hreached _ hdue
  have hconclude {x' : Session} (hstep : (x.step a).1 = x'.release) (ho : Outcome x a x')
      (hdone : Spared s (x.effect a) x'.database) :
      Spared s (x.effect a) (x.step a).1.database := by
    have hu : Upkept (x.effect a) x'.database := ho.tended.upkept
    have hpanicked := hu.panicked_iff.2 (panicked_effect h)
    exact hstep ▸ hdone.trans (spared_of_panicked ((sound_effect hx a).1.upkept hu) hpanicked)
  cases hx.way a with
  | refused hstep hedit heffect =>
    rw [heffect, show (x.step a).1 = x from congrArg Prod.fst hstep]
    exact .refl s _
  | onStore hs ho hstep =>
    exact hconclude (congrArg Prod.fst hstep) (outcome_onStore hx hs ho)
      ((persistsIf_onStore hx hs hmode ho).spared hasked)
  | onView hview ho hstep =>
    exact hconclude (congrArg Prod.fst hstep) (outcome_onView hx hview ho)
      ((persistsIf_onView hx hmode hview ho).spared id)
  | onHandle hhandle ho hstep =>
    exact hconclude (congrArg Prod.fst hstep) (outcome_onHandle hx hhandle ho)
      ((persistsIf_onHandle hx hmode hhandle ho).spared id)
  | onHost a => exact .refl s _
  | drop =>
    have hstep : (x.step .drop).1 =
      ({ x with store := none, views := [], handles := [] } : Session).release := rfl
    exact hconclude hstep (.dropped rfl) (.refl s _)
  | reopen config =>
    have hgiven : Spared s x.database x.letGo.database :=
      spared_of_panicked (x := { x with store := none }) hx.database h
    exact hgiven.trans (spared_reopen x config s).1
  | wait nanos => exact (persistsIf_elapse hx.database _).spared (hreached _)

end Session

end DocumentStore
