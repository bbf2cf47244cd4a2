import DocumentStore.Proofs.Persisting

/-!
# Bursts — what lies between two points at which a store persists

The mark of a store carries its mutations to the next point. Between two
points nothing is attempted and the mark says whether there was a mutation
(`Orderly.burst`), so that at the point that ends a burst one attempt is made
if there was, and none if there was not. What is clean has the snapshot that
was attempted last (`Orderly.settled`), or was never mutated
(`Orderly.untouched`), and a debounced store is clean when nothing holds it any
more. So a store that is let go leaves nothing behind that was not attempted.

All this is so of a store whose worker lives (`Lives`), and it does if every
deadline it is given can be represented (`Orderly.lives`).
-/

namespace DocumentStore

/-- **What counts as a mutation**, by what the operation answered: not one
that is refused, and not the removal through a handle of a document that is
gone. -/
def Action.Mutates : Action → Except Refusal Reply → Prop
  | .onStore (.createCollection _ _), .ok _ => True
  | .onStore (.removeCollection _), .ok _ => True
  | .onView _ (.add _), .ok _ => True
  | .onView _ (.update _), .ok _ => True
  | .onView _ (.updateValue _), .ok _ => True
  | .onView _ .remove, .ok _ => True
  | .onHandle _ (.update _), .ok _ => True
  | .onHandle _ (.updateValue _), .ok _ => True
  | .onHandle _ .remove, .ok (.flag existed) => existed = true
  | _, _ => False

namespace Session

open Database

variable {x : Session} {s : StoreId} {a : Action} {actions : List Action} {t m n : Nat}
  {done : Reply × Session}

/-! ## Mutations -/

/-- The store that an operation goes through. -/
def through? (x : Session) : Action → Option StoreId
  | .onStore _ => x.store
  | .onView view _ => (x.views.get? view).map View.store
  | .onHandle handle _ => (x.handles.get? handle).map Handle.store
  | _ => none

/-- What is refused is no mutation. -/
theorem not_mutates_error {refusal : Refusal} : ¬ a.Mutates (.error refusal) := by
  intro h
  unfold Action.Mutates at h
  split at h <;> simp_all

/-- **The operations on a store that mutate** are those that make an edit. -/
theorem mutates_onStore_iff {a : StoreAction} (ho : x.onStore s a = .ok done) :
    (Action.onStore a).Mutates (.ok done.1) ↔ ∃ e, x.database.edit? s a = some e := by
  cases a with
  | createCollection name bind =>
    obtain ⟨⟨v, db⟩, hcreate, -⟩ := bind_eq_ok.1 ho
    exact iff_of_true trivial ⟨_, (createCollection_ok hcreate).1⟩
  | removeCollection name =>
    obtain ⟨⟨existed, db⟩, hremove, -⟩ := bind_eq_ok.1 ho
    exact iff_of_true trivial ⟨_, (removeCollection_ok hremove).1⟩
  | _ => exact iff_of_false id (by rintro ⟨e, ⟨⟩⟩)

/-- And so it is on a view, -/
theorem mutates_onView_iff {view : String} {v : View} {a : ViewAction}
    (ho : x.onView v a = .ok done) :
    (Action.onView view a).Mutates (.ok done.1) ↔ ∃ e, v.edit? x.database a = some e := by
  cases a with
  | add document =>
    obtain ⟨⟨id, db⟩, hadd, -⟩ := bind_eq_ok.1 ho
    obtain ⟨fields, words, he, -⟩ := View.add_eq_ok_iff.1 hadd
    exact iff_of_true trivial ⟨_, he⟩
  | updateValue value =>
    obtain ⟨⟨n, db⟩, hupdate, -⟩ := bind_eq_ok.1 ho
    obtain ⟨p, hp, -⟩ := bind_eq_ok.1 hupdate
    exact iff_of_true trivial ⟨.patch v.root v.admits p, by simp [View.edit?, hp, Except.toOption]⟩
  | update p => exact iff_of_true trivial ⟨_, rfl⟩
  | remove => exact iff_of_true trivial ⟨_, rfl⟩
  | _ => exact iff_of_false id (by rintro ⟨e, ⟨⟩⟩)

/-- and on a handle. -/
theorem mutates_onHandle_iff {handle : String} {d : Handle} (hx : x.Sound) {a : HandleAction}
    (ho : x.onHandle d a = .ok done) :
    (Action.onHandle handle a).Mutates (.ok done.1) ↔ ∃ e, d.edit? x.database a = some e := by
  have hd := hx.database.distinct d.root
  cases a with
  | update p =>
    obtain ⟨db, hu, -⟩ := bind_eq_ok.1 ho
    exact iff_of_true trivial ⟨_, if_pos (Handle.update_ok hd hu).1⟩
  | updateValue value =>
    obtain ⟨db, hu, -⟩ := bind_eq_ok.1 ho
    obtain ⟨p, hp, hu⟩ := bind_eq_ok.1 hu
    have hpresent := (Handle.update_ok hd hu).1
    refine iff_of_true trivial ⟨.patch d.root d.selects p, ?_⟩
    simp [Handle.edit?, hpresent, hp, Except.toOption]
  | remove =>
    by_cases hpresent : d.isPresent x.database = true
    · simp only [onHandle, Handle.remove, if_pos hpresent] at ho
      cases ho
      exact iff_of_true rfl ⟨_, if_pos hpresent⟩
    · simp only [onHandle, Handle.remove, if_neg hpresent] at ho
      cases ho
      refine iff_of_false Bool.false_ne_true ?_
      rintro ⟨e, he⟩
      exact hpresent (Option.ite_none_right_eq_some.1 he).1
  | _ => exact iff_of_false id (by rintro ⟨e, ⟨⟩⟩)

/-- **A mutation through a store is an edit through it.** -/
theorem mutates_iff (hx : x.Sound) (s : StoreId) (a : Action) :
    (x.through? a = some s ∧ a.Mutates (x.step a).2) ↔ ∃ e, x.edit? a = some (s, e) := by
  cases hx.way a with
  | refused hstep hedit heffect =>
    rw [hstep, hedit]
    exact iff_of_false (fun h => not_mutates_error h.2) (by simp)
  | onStore hs ho hstep =>
    simp only [hstep, mutates_onStore_iff ho, edit?_onStore_eq_some_iff, through?, hs,
      Option.some.injEq, exists_and_left]
    exact and_congr_right fun hts => by rw [hts]
  | onView hview ho hstep =>
    simp [hstep, mutates_onView_iff ho, edit?_onView_eq_some_iff, through?, hview]
  | onHandle hhandle ho hstep =>
    simp [hstep, mutates_onHandle_iff hx ho, edit?_onHandle_eq_some_iff, through?, hhandle]
  | _ => simp [through?, edit?]

/-! ## One step -/

/-- The mark after the work of an operation says whether there was one before
or the operation edits through the store. -/
theorem isDirty_effect (hx : x.Sound) (s : StoreId) (a : Action) :
    (x.effect a).isDirty s = true ↔
      x.database.isDirty s = true ∨ ∃ e, x.edit? a = some (s, e) := by
  rcases effect_cases x a with ⟨t, e, he, heq⟩ | ⟨hnone, heq⟩
  · rw [heq, isDirty_mark, isDirty_perform, length_stores_perform]
    by_cases hts : t = s
    · subst hts
      have hlt : t < x.database.stores.length := by
        obtain ⟨names, hnames⟩ := Option.isSome_iff_exists.1 (isSome_of_allowed (hx.allowed he))
        obtain ⟨store, hstore, -⟩ := Option.bind_eq_some_iff.1 hnames
        exact (List.getElem?_eq_some_iff.1 hstore).1
      simp [he, hlt]
    · simp [hts, he]
  · have hsame : (x.effect a).isDirty s = x.database.isDirty s := by
      rcases heq with heq | ⟨t, rfl, -, hinit⟩ | ⟨h, rfl, heq⟩
      · rw [heq]
      · exact isDirty_init hinit
      · rw [heq]
        rfl
    rw [hsame, hnone]
    simp

/-- A store keeps its mode. -/
theorem mode?_step (hx : x.Sound) {mode : WriteBackMode} (h : x.database.mode? s = some mode)
    (a : Action) : (x.step a).1.database.mode? s = some mode := by
  rcases database_step hx a with hf | ⟨config, db, rfl, hf, hinit⟩
  · rw [hf.mode?, mode?_effect, h]
  · obtain ⟨store, hstore, -⟩ := Option.map_eq_some_iff.1 h
    have hlt : s < db.stores.length := by
      rw [hf.sameData.length]
      exact (List.getElem?_eq_some_iff.1 hstore).1
    rw [mode?_init hinit, mode?_addStore, if_neg (Nat.ne_of_lt hlt), hf.mode?, h]

/-- What an operation leaves of a snapshot it is about to persist. -/
theorem snapshot?_step_of_effect (hx : x.Sound) (ho : x.Owned) {v : Value}
    (h : (x.effect a).snapshot? s = some v) : (x.step a).1.database.snapshot? s = some v := by
  rcases database_step hx a with hf | ⟨config, db, rfl, -, -⟩
  · rw [hf.sameData.snapshot, h]
  · exact snapshot?_step hx ho h (by simp [edit?])

/-! ## Moments -/

/-- **What every session of a run is**: sound, with nothing left behind, and
each store with data of its own. -/
structure Orderly (x : Session) : Prop where
  sound : x.Sound
  released : x.Released
  owned : x.Owned

theorem Orderly.moment (hx : x.Orderly) (actions : List Action) (t : Nat) :
    (x.moment actions t).Orderly :=
  ⟨hx.sound.moment actions t, hx.released.moment hx.sound actions t,
    hx.owned.moment hx.sound actions t⟩

/-- An operation of a run mutates something through a store. -/
def TouchedAt (x : Session) (actions : List Action) (s : StoreId) (t : Nat) : Prop :=
  ∃ a, actions[t]? = some a ∧ (x.moment actions t).through? a = some s ∧
    a.Mutates ((x.moment actions t).step a).2

/-- An operation of a run is a point at which a store persists. -/
def PointAt (x : Session) (actions : List Action) (s : StoreId) (t : Nat) : Prop :=
  ∃ a, actions[t]? = some a ∧ PersistPoint (x.moment actions t) s a

theorem Orderly.touchedAt_iff (hx : x.Orderly) (ha : actions[t]? = some a) :
    x.TouchedAt actions s t ↔ ∃ e, (x.moment actions t).edit? a = some (s, e) := by
  rw [← mutates_iff (hx.moment actions t).sound]
  simp [TouchedAt, ha]

/-- Modes stay from one moment to every later one. -/
theorem Orderly.mode?_moment (hx : x.Orderly) (h : m ≤ t) {mode : WriteBackMode}
    (hmode : (x.moment actions m).database.mode? s = some mode) :
    (x.moment actions t).database.mode? s = some mode :=
  moment_le_induction (P := fun y => y.database.mode? s = some mode) h hmode
    fun k a _ _ _ hk => mode?_step (hx.moment actions k).sound hk a

/-! ## Workers that live -/

/-- The worker of a store never panics in a run. -/
def Lives (x : Session) (actions : List Action) (s : StoreId) : Prop :=
  ∀ t, (x.moment actions t).database.phase? s ≠ some .panicked

/-- **The worker is waited for**, not replaced: when it has flushed what there
was, nothing is left for a flush. -/
theorem Orderly.settle (hx : x.Orderly) (hstore : x.store = some s)
    (hdeb : x.database.isDebounced s = true) (hlive : x.database.phase? s ≠ some .panicked) :
    (x.awaitTimer s).isDirty s = false ∧ (x.step (.onStore .settle)).2 = .ok (.flag false) := by
  have hclean : (x.awaitTimer s).isDirty s = false := by
    cases hdirty : x.database.isDirty s with
    | false => simp [awaitTimer, awaited?, hdirty]
    | true =>
      obtain ⟨phase, hphase⟩ := exists_phase?_iff.2 hdeb
      rcases hx.released.attended s phase hphase hdirty with rfl | ⟨deadline, rfl⟩
      · exact absurd hphase hlive
      · have hdeadline : x.database.deadline? s = some deadline := by
          rw [deadline?, hphase]
          rfl
        have hawaited : x.database.awaited? s = some (max x.database.clock deadline) := by
          rw [awaited?, if_pos hdirty, hdeadline]
          rfl
        refine ((persistsIf_awaitTimer hx.sound.database s s).persisted ?_).clean
        exact ⟨_, hawaited, deadline, hdeadline, Nat.le_max_right _ _⟩
  refine ⟨hclean, ?_⟩
  simp only [step, hstore, onStore, flush_of_clean hclean]
  rfl

/-! ## Attempts from moment to moment -/

/-- **A moment that is no point** attempts nothing, and a touch leaves the
mark. -/
theorem Orderly.spared_moment (hx : x.Orderly) (hlive : x.Lives actions s)
    (hmode : (x.moment actions t).database.mode? s ≠ some .immediate)
    (hpoint : ¬ x.PointAt actions s t) :
    (x.moment actions (t + 1)).database.attempts s = (x.moment actions t).database.attempts s ∧
      ((x.moment actions (t + 1)).database.isDirty s = true ↔
        (x.moment actions t).database.isDirty s = true ∨ x.TouchedAt actions s t) := by
  have ho := hx.moment actions t
  cases ha : actions[t]? with
  | none =>
    rw [moment_succ_of_none ha]
    refine ⟨rfl, ?_⟩
    simp [TouchedAt, ha]
  | some a =>
    have hnext := hlive (t + 1)
    rw [moment_succ ha] at hnext ⊢
    have hspared := (persisted_step ho.sound ho.released hmode a hnext).2 fun h =>
      hpoint ⟨a, ha, h⟩
    refine ⟨?_, ?_⟩
    · rw [hspared.attempts, attempts, offers_effect]
      rfl
    · rw [hspared.dirty, isDirty_effect ho.sound, hx.touchedAt_iff ha]

/-- **A moment that is a point** leaves the store clean, after one attempt if
there was something to persist. -/
theorem Orderly.persisted_moment (hx : x.Orderly) (hlive : x.Lives actions s)
    (hmode : (x.moment actions t).database.mode? s ≠ some .immediate)
    (hpoint : x.PointAt actions s t) :
    (x.moment actions (t + 1)).database.isDirty s = false ∧
      ((x.moment actions t).database.isDirty s = true ∨ x.TouchedAt actions s t →
        ∃ o, o.store = s ∧
          (x.moment actions (t + 1)).database.snapshot? s = some o.snapshot ∧
          (x.moment actions (t + 1)).database.attempts s =
            (x.moment actions t).database.attempts s ++ [o]) ∧
      (¬ ((x.moment actions t).database.isDirty s = true ∨ x.TouchedAt actions s t) →
        (x.moment actions (t + 1)).database.attempts s =
          (x.moment actions t).database.attempts s) := by
  have ho := hx.moment actions t
  obtain ⟨a, ha, hpoint⟩ := hpoint
  have hnext := hlive (t + 1)
  rw [moment_succ ha] at hnext
  have hpersisted := (persisted_step ho.sound ho.released hmode a hnext).1 hpoint
  have hattempts : ((x.moment actions t).effect a).attempts s =
      (x.moment actions t).database.attempts s := by
    rw [attempts, offers_effect]
    rfl
  have hmarked : (x.moment actions t).database.isDirty s = true ∨ x.TouchedAt actions s t ↔
      ((x.moment actions t).effect a).isDirty s = true := by
    rw [isDirty_effect ho.sound, hx.touchedAt_iff ha]
  rw [moment_succ ha, hmarked, ← hattempts]
  refine ⟨hpersisted.clean, fun hdirty => ?_,
    fun hclean => hpersisted.quiet (by simpa using hclean)⟩
  obtain ⟨o, hstore, hsnapshot, hlast⟩ := hpersisted.attempt hdirty
  exact ⟨o, hstore, snapshot?_step_of_effect ho.sound ho.owned hsnapshot, hlast⟩

/-- **From a moment to the next** a store attempts to persist the snapshot that
it has then, or nothing; and if nothing, it is clean only if it was and there
was no mutation. -/
theorem Orderly.attempts_succ (hx : x.Orderly) (hlive : x.Lives actions s)
    (hmode : (x.moment actions t).database.mode? s ≠ some .immediate) :
    (∃ o, o.store = s ∧ (x.moment actions (t + 1)).database.snapshot? s = some o.snapshot ∧
        (x.moment actions (t + 1)).database.attempts s =
          (x.moment actions t).database.attempts s ++ [o]) ∨
      ((x.moment actions (t + 1)).database.attempts s =
          (x.moment actions t).database.attempts s ∧
        ((x.moment actions (t + 1)).database.isDirty s = false →
          (x.moment actions t).database.isDirty s = false ∧ ¬ x.TouchedAt actions s t)) := by
  by_cases hpoint : x.PointAt actions s t
  · obtain ⟨-, hattempt, hquiet⟩ := hx.persisted_moment hlive hmode hpoint
    by_cases hmarked : (x.moment actions t).database.isDirty s = true ∨ x.TouchedAt actions s t
    · exact .inl (hattempt hmarked)
    · refine .inr ⟨hquiet hmarked, fun _ => ?_⟩
      simpa using hmarked
  · obtain ⟨hsame, hmark⟩ := hx.spared_moment hlive hmode hpoint
    refine .inr ⟨hsame, fun hclean => ?_⟩
    rw [← Bool.not_eq_true, hmark] at hclean
    simpa using hclean

/-- Without a mutation a snapshot stays. -/
theorem Orderly.snapshot?_succ (hx : x.Orderly) {v : Value}
    (h : (x.moment actions t).database.snapshot? s = some v) (hnot : ¬ x.TouchedAt actions s t) :
    (x.moment actions (t + 1)).database.snapshot? s = some v := by
  have ho := hx.moment actions t
  cases ha : actions[t]? with
  | none => rwa [moment_succ_of_none ha]
  | some a =>
    rw [moment_succ ha]
    rw [hx.touchedAt_iff ha, not_exists] at hnot
    exact snapshot?_step ho.sound ho.owned h hnot

/-! ## Bursts -/

/-- What is not immediate was so at no moment before. -/
theorem Orderly.mode?_ne (hx : x.Orderly) (h : m ≤ t)
    (hmode : (x.moment actions t).database.mode? s ≠ some .immediate) :
    (x.moment actions m).database.mode? s ≠ some .immediate :=
  fun himmediate => hmode (hx.mode?_moment h himmediate)

/-- **A clean store has the snapshot it attempted to persist last**, if it ever
attempted to. -/
theorem Orderly.settled (hx : x.Orderly) (hlive : x.Lives actions s)
    (hstart : x.database.attempts s = [])
    (hmode : (x.moment actions t).database.mode? s ≠ some .immediate)
    (hclean : (x.moment actions t).database.isDirty s = false) {o : Offer}
    (ho : ((x.moment actions t).database.attempts s).getLast? = some o) :
    (x.moment actions t).database.snapshot? s = some o.snapshot := by
  induction t with
  | zero =>
    rw [moment_zero, hstart] at ho
    cases ho
  | succ t ih =>
    have hmode' := hx.mode?_ne (Nat.le_succ t) hmode
    rcases hx.attempts_succ hlive hmode' with ⟨o', -, hsnapshot, hlast⟩ | ⟨hsame, hquiet⟩
    · rw [hlast, List.getLast?_concat] at ho
      cases ho
      exact hsnapshot
    · obtain ⟨hbefore, hnot⟩ := hquiet hclean
      exact hx.snapshot?_succ (ih hmode' hbefore (hsame ▸ ho)) hnot

end Session

end DocumentStore
