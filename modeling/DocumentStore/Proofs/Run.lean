import DocumentStore.Proofs.Step

/-!
# Runs — what holds at every moment

A run passes through moments, one before each action and one after the
last (`Session.moment`). The views and handles that are held at a moment
were held before, or were made by the action between from what was held
(`Arises`); so the invariant of a session is kept by every step
(`Sound.step`) and holds at every moment of a run from a new session
(`Sound.moment`), and the database of a later moment has evolved from that
of an earlier one (`evolves_moment`).
-/

namespace DocumentStore

namespace Session

open Database

variable {x x' : Session} {v : View} {h : Handle} {s : StoreId} {reply : Reply} {db db' : Database}

/-! ## Where views and handles come from -/

/-- How a view that is held after an operation arose: it was held before,
it is the view of a whole collection of the database there is then, or it
was derived from a view that was held. -/
inductive Arises (x : Session) (db : Database) : View → Prop
  | kept {name v} (h : x.views.get? name = some v) : Arises x db v
  | whole {s r} (name : String) (hs : (db.collections? s).isSome) (hr : r < db.roots.length) :
      Arises x db (.whole s r name)
  | options {name v} (h : x.views.get? name = some v) (options : Options) :
      Arises x db { v with options }
  | filter {name v} (h : x.views.get? name = some v) (f : Filter) :
      Arises x db (v.filter x.database f)

theorem Arises.evolves (h : Arises x db v) (hev : Evolves db db') : Arises x db' v := by
  cases h with
  | kept h => exact .kept h
  | whole name hs hr => exact .whole name (hev.initialized _ hs) (Nat.lt_of_lt_of_le hr hev.roots)
  | options h options => exact .options h options
  | filter h f => exact .filter h f

theorem get?_bindView {bind name : String} {w : View}
    (h : (x.bindView bind w).2.views.get? name = some v) : v = w ∨ x.views.get? name = some v := by
  simp only [bindView, Bindings.get?_insert] at h
  split at h
  · exact .inl (Option.some.inj h).symm
  · exact .inr h

/-- **Every view that is held after a step arose from what was held.** -/
theorem arises_step (hx : x.Sound) {a : Action} {name : String}
    (hget : (x.step a).1.views.get? name = some v) : Arises x (x.step a).1.database v := by
  have hmade {x' : Session} {bind : String} {w : View} (hw : Arises x x'.database w)
      (hkept : x'.views = x.views) (hget : (x'.bindView bind w).2.views.get? name = some v) :
      Arises x (x'.bindView bind w).2.database v := by
    rcases get?_bindView hget with rfl | hget
    · exact hw
    · exact .kept (hkept ▸ hget)
  have houtcome {x' : Session} (h : Outcome x a x') (hget : x'.views.get? name = some v) :
      Arises x x'.database v := by
    cases h with
    | database hf => exact .kept hget
    | @created s made bind he =>
      have ha := hx.allowed he
      have htouch : SameData _ (((Edit.create made).perform s x.database).touch s) :=
        sameData_touch
      refine hmade (.evolves (.whole made ?_ ?_) (.of_sameData htouch)) rfl hget
      · exact (evolves_perform ha).initialized s (isSome_of_allowed ha)
      · simp [Edit.perform, addRoot, modifyStore]
    | found found bind he hstore hs hr => exact hmade (.whole found hs hr) rfl hget
    | options bind options he hview => exact hmade (.options hview options) rfl hget
    | filter bind f he hview => exact hmade (.filter hview f) rfl hget
    | handle bind id he hview => exact .kept hget
    | dropped he => cases hget
  by_cases ha : ∃ config, a = .reopen config
  · obtain ⟨config, rfl⟩ := ha
    have hviews : (x.step (.reopen config)).1.views = x.views := by
      simp only [step, reopen]
      split <;> rfl
    exact .kept (hviews ▸ hget)
  · obtain ⟨x', h, heq | heq⟩ := outcome_step hx fun config heq => ha ⟨config, heq⟩
    · rw [heq] at hget ⊢
      exact houtcome h hget
    · rw [heq] at hget ⊢
      exact (houtcome h hget).evolves (.of_sameData (upkept_release x').sameData)

/-- **Every handle that is held after a step** was held before it or is one
of a view that was. -/
theorem handle_step (hx : x.Sound) {a : Action} {name : String}
    (hget : (x.step a).1.handles.get? name = some h) :
    x.handles.get? name = some h ∨
      ∃ view v id, x.views.get? view = some v ∧ h = v.handle id := by
  by_cases ha : ∃ config, a = .reopen config
  · obtain ⟨config, rfl⟩ := ha
    have hhandles : (x.step (.reopen config)).1.handles = x.handles := by
      simp only [step, reopen]
      split <;> rfl
    exact .inl (hhandles ▸ hget)
  · obtain ⟨x', houtcome, hstep⟩ := outcome_step hx fun config heq => ha ⟨config, heq⟩
    have hget : x'.handles.get? name = some h := by
      rcases hstep with heq | heq
      · exact heq ▸ hget
      · rw [heq] at hget
        exact hget
    cases houtcome with
    | @handle view v bind id he hview =>
      simp only [bindHandle, Bindings.get?_insert] at hget
      split at hget
      · exact .inr ⟨view, v, id, hview, (Option.some.inj hget).symm⟩
      · exact .inl hget
    | dropped he => cases hget
    | _ => exact .inl hget

/-! ## The invariant -/

/-- A new session is sound. -/
theorem sound_start (host : Host) (config : Config) (words : List UInt32) :
    (start host config words).Sound where
  database := (sound_new host words).addStore config
  view _ _ hget := by cases hget
  handle _ _ hget := by cases hget

/-- **A step keeps the invariant of a session.** -/
theorem Sound.step (hx : x.Sound) (a : Action) : (x.step a).1.Sound := by
  obtain ⟨hdb, hev⟩ := sound_database_step hx a
  refine ⟨hdb, fun name v hget => ?_, fun name h hget => ?_⟩
  · cases arises_step hx hget with
    | kept hold => exact (hx.view _ v hold).evolves hx.database hev
    | whole name hs hr => exact ⟨hs, hr, fun scope hscope => by cases hscope⟩
    | options hold options =>
      obtain ⟨hs, hr, hfits⟩ := (hx.view _ _ hold).evolves hx.database hev
      exact ⟨hs, hr, hfits⟩
    | filter hold f =>
      exact (View.sound_filter (hx.view _ _ hold) hx.database f).evolves hx.database hev
  · rcases handle_step hx hget with hold | ⟨view, v, id, hold, rfl⟩
    · exact (hx.handle name h hold).evolves hev
    · obtain ⟨hs, hr, -⟩ := (hx.view view v hold).evolves hx.database hev
      exact ⟨hs, hr⟩

/-! ## Moments -/

/-- The session after the first `t` of a list of actions. -/
def moment (x : Session) (actions : List Action) (t : Nat) : Session :=
  (x.run (actions.take t)).1

variable {actions : List Action} {t m : Nat}

theorem run_append (x : Session) (actions actions' : List Action) :
    (x.run (actions ++ actions')).1 = ((x.run actions).1.run actions').1 := by
  induction actions generalizing x with
  | nil => rfl
  | cons a rest ih => exact ih (x.step a).1

@[simp] theorem moment_zero : x.moment actions 0 = x := rfl

/-- From one moment to the next there is one step. -/
theorem moment_succ {a : Action} (ha : actions[t]? = some a) :
    x.moment actions (t + 1) = ((x.moment actions t).step a).1 := by
  rw [moment, moment, List.take_add_one, ha, run_append]
  rfl

/-- After the last action nothing happens. -/
theorem moment_succ_of_none (ha : actions[t]? = none) :
    x.moment actions (t + 1) = x.moment actions t := by
  rw [moment, moment, List.take_add_one, ha]
  simp

/-- What every step from a moment to another keeps holds at the other. -/
theorem moment_le_induction {P : Session → Prop} (h : t ≤ m) (ht : P (x.moment actions t))
    (hstep : ∀ k a, t ≤ k → k < m → actions[k]? = some a → P (x.moment actions k) →
      P ((x.moment actions k).step a).1) : P (x.moment actions m) := by
  induction h with
  | refl => exact ht
  | @step m htm ih =>
    have hm := ih fun k a htk hkm => hstep k a htk (Nat.lt_succ_of_lt hkm)
    cases ha : actions[m]? with
    | none => rwa [moment_succ_of_none ha]
    | some a =>
      rw [moment_succ ha]
      exact hstep m a htm (Nat.lt_succ_self m) ha hm

/-- What every step keeps holds at every moment. -/
theorem moment_induction {P : Session → Prop} (h₀ : P x)
    (hstep : ∀ x a, a ∈ actions → P x → P (x.step a).1) (t : Nat) : P (x.moment actions t) :=
  moment_le_induction (Nat.zero_le t) h₀ fun _ a _ _ ha => hstep _ a (List.mem_of_getElem? ha)

/-- **Every moment of a run is sound.** -/
theorem Sound.moment (hx : x.Sound) (actions : List Action) (t : Nat) :
    (x.moment actions t).Sound :=
  moment_induction hx (fun _ a _ h => h.step a) t

/-- **Databases evolve** from every moment to every later one. -/
theorem evolves_moment (hx : x.Sound) (h : t ≤ m) :
    Evolves (x.moment actions t).database (x.moment actions m).database :=
  moment_le_induction (P := fun y => Evolves (x.moment actions t).database y.database) h
    (Evolves.refl _) fun k a _ _ _ hbefore => hbefore.trans (evolves_step (hx.moment actions k) a)

end Session

end DocumentStore
