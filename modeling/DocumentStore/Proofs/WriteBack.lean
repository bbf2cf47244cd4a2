import DocumentStore.Proofs.Holding

/-!
# Write-back — what is persisted tracks what is in memory

One store is on a host, and nothing else writes to the host. Every change
of the store's snapshot comes with the mark (`Prepares`), and the mark goes
only with an offer of the snapshot there is then (`flush_of_dirty`). So at
every moment of a run, whatever the mode and whatever the host accepts, the
last snapshot offered is the store's own unless it is marked, and the last
one accepted is what the host holds (`Tracked`).
-/

namespace DocumentStore

/-- Operations other than of another writer: nothing is written to the host
past the store, and no other store is opened on it. -/
def Action.IsSolo : Action → Prop
  | .onHost (.persist _) => False
  | .reopen _ => False
  | _ => True

theorem Action.IsSolo.ne_reopen {a : Action} (h : a.IsSolo) (config : Config) :
    a ≠ .reopen config := by
  rintro rfl
  exact h

namespace Database

variable {db db' : Database} {s t : StoreId}

/-- The count of accepted snapshots that a store keeps. -/
def flushCount (db : Database) (s : StoreId) : Nat := ((db.stores[s]?).map Store.flushes).getD 0

theorem flushCount_congr (h : Keeps Store.flushes db db') (t : StoreId) :
    db'.flushCount t = db.flushCount t := by
  rw [flushCount, flushCount, h t]

/-! ## Flushes of one store -/

theorem flush_of_clean (h : db.isDirty s = false) : db.flush s = (db, false) := by
  unfold flush
  rw [if_neg (by simp [h])]

/-- **A flush of a dirty store** offers its snapshot, once, and counts it if
it is accepted. -/
theorem flush_of_dirty (hdb : Sound db) (h : db.isDirty s = true) :
    ∃ v, db.snapshot? s = some v ∧ (db.flush s).2 = true ∧
      (db.flush s).1.host = (db.host.persist v).1 ∧
      (db.flush s).1.offers = db.offers ++ [⟨s, v, (db.host.persist v).2⟩] ∧
      (db.flush s).1.flushCount s =
        db.flushCount s + if (db.host.persist v).2 then 1 else 0 := by
  obtain ⟨collections, hc⟩ := Option.isSome_iff_exists.1 (hdb.initialized s h)
  obtain ⟨store, hstore, -⟩ := Option.bind_eq_some_iff.1 hc
  have hclear : SameData db (db.modifyStore s fun store => { store with dirty := false }) :=
    sameData_modifyStore fun _ => rfl
  obtain ⟨v, hv⟩ : ∃ v, db.snapshot? s = some v := ⟨_, by rw [snapshot?, hc]; rfl⟩
  have hflush : db.flush s =
      ((db.modifyStore s fun store => { store with dirty := false }).persist s v, true) := by
    unfold flush
    rw [if_pos h]
    dsimp only
    rw [hclear.snapshot, hv]
  refine ⟨v, hv, ?_⟩
  rw [hflush]
  unfold persist
  have hhost : (db.modifyStore s fun store => { store with dirty := false }).host = db.host := rfl
  dsimp only
  rw [hhost]
  cases (db.host.persist v).2 with
  | false =>
    refine ⟨rfl, rfl, rfl, ?_⟩
    have hkept : Keeps Store.flushes db (db.modifyStore s fun store =>
      { store with dirty := false }) := keeps_modifyStore fun _ => rfl
    exact flushCount_congr hkept s
  | true =>
    refine ⟨rfl, rfl, rfl, ?_⟩
    simp [flushCount, modifyStore, hstore]

/-! ## Before anything is persisted -/

/-- What an operation of one store does before it persists: it offers
nothing, the host holds what it held, and the store is marked unless its
snapshot stays, or was none. -/
structure Prepares (db db' : Database) : Prop where
  length : db'.stores.length = db.stores.length
  offers : db'.offers = db.offers
  flushCount : db'.flushCount 0 = db.flushCount 0
  holds : ∀ v, db.host.Holds v → db'.host.Holds v
  marked : db'.isDirty 0 = true ∨ (db'.isDirty 0 = db.isDirty 0 ∧
    (db.snapshot? 0 = none ∨ db'.snapshot? 0 = db.snapshot? 0))

theorem Prepares.refl (db : Database) : Prepares db db :=
  ⟨rfl, rfl, rfl, fun _ h => h, .inr ⟨rfl, .inr rfl⟩⟩

/-- **Edits come with the mark.** -/
theorem prepares_edit {e : Edit} (hone : db.stores.length = 1) (ha : e.Allowed db s) :
    Prepares db ((e.perform s db).mark s) := by
  have hlength : (e.perform s db).stores.length = db.stores.length := length_stores_perform
  have hs : s = 0 := by
    obtain ⟨collections, hc⟩ := Option.isSome_iff_exists.1 (isSome_of_allowed ha)
    obtain ⟨store, hstore, -⟩ := Option.bind_eq_some_iff.1 hc
    have hlt := (List.getElem?_eq_some_iff.1 hstore).1
    rw [hone] at hlt
    exact Nat.lt_one_iff.1 hlt
  subst hs
  have hcount : Keeps Store.flushes db ((e.perform 0 db).mark 0) :=
    (keeps_perform fun _ _ => rfl).trans (keeps_mark (fun _ _ => rfl) fun _ _ => rfl)
  refine ⟨?_, ?_, flushCount_congr hcount 0, ?_, .inl ?_⟩
  · rw [sameData_mark.length, hlength]
  · cases e <;> rfl
  · cases e <;> exact fun v h => h
  · rw [isDirty_mark, if_pos rfl, hlength, hone]
    rfl

/-- Initializing gives a store its first snapshot, or does nothing. -/
theorem prepares_init (h : db.init 0 = .ok db') : Prepares db db' := by
  have hdirty := isDirty_init (t := 0) h
  have hcount := flushCount_congr (keeps_init (fun _ _ => rfl) h) 0
  rcases init_ok h with ⟨-, rfl⟩ | ⟨hnone, collections, db₁, hl, -, rfl⟩
  · exact Prepares.refl db'
  · refine ⟨?_, hl.offers, hcount, fun v hv => ?_, .inr ⟨hdirty, .inl ?_⟩⟩
    · rw [← hl.stores]
      exact List.length_modify ..
    · show db₁.host.Holds v
      rwa [hl.host]
    · rw [snapshot?, hnone]
      rfl

/-- A signal that makes no worker flush is no more than nothing, -/
theorem prepares_tell {signal : Signal} : Prepares db (db.tell s signal) where
  length := sameData_tell.length
  offers := rfl
  flushCount := flushCount_congr (keeps_tell fun _ => rfl) 0
  holds _ h := h
  marked := .inr ⟨isDirty_tell, .inr (sameData_tell.snapshot 0)⟩

/-- and neither is time. -/
theorem prepares_clock (time : Instant) : Prepares db { db with clock := time } :=
  ⟨rfl, rfl, rfl, fun _ h => h, .inr ⟨rfl, .inr rfl⟩⟩

/-! ## The invariant -/

/-- **The invariant of a store and its host**: the store counts the accepted
offers, the host holds the last of them, and what was offered last is what
the store has now, unless it is marked. -/
structure Tracked (db : Database) : Prop where
  one : db.stores.length = 1
  count : db.flushCount 0 = (db.offers.filter Offer.accepted).length
  holds : ∀ before o after, db.offers = before ++ o :: after → o.accepted = true →
    (∀ o' ∈ after, o'.accepted = false) → db.host.Holds o.snapshot
  current : db.isDirty 0 = false → ∀ o, db.offers.getLast? = some o →
    db.snapshot? 0 = some o.snapshot

theorem Tracked.prepares (h : Tracked db) (hp : Prepares db db') : Tracked db' where
  one := hp.length.trans h.one
  count := by rw [hp.flushCount, hp.offers, h.count]
  holds before o after heq hacc hafter :=
    hp.holds _ (h.holds before o after (hp.offers ▸ heq) hacc hafter)
  current hclean o ho := by
    rw [hp.offers] at ho
    rcases hp.marked with hdirty | ⟨hsame, hnone | hsnapshot⟩
    · rw [hclean] at hdirty
      cases hdirty
    · have := h.current (hsame ▸ hclean) o ho
      rw [hnone] at this
      cases this
    · rw [hsnapshot]
      exact h.current (hsame ▸ hclean) o ho

/-- **A flush keeps the invariant**, whatever the host answers. -/
theorem Tracked.flush (h : Tracked db) (hdb : Sound db) (hdirty : db.isDirty 0 = true) :
    Tracked (db.flush 0).1 := by
  obtain ⟨v, hv, -, -, hoffers, hcount⟩ := flush_of_dirty hdb hdirty
  refine ⟨sameData_flush.length.trans h.one, ?_, ?_, ?_⟩
  · rw [hcount, hoffers, h.count, List.filter_append, List.length_append]
    cases (db.host.persist v).2 <;> rfl
  · exact holdsLatest_iff.2 ((holdsLatest_iff.1 h.holds).flush 0)
  · intro _ o ho
    rw [hoffers, List.getLast?_concat] at ho
    rw [sameData_flush.snapshot, hv]
    exact congrArg (fun o => some o.snapshot) (Option.some.inj ho)

/-- **What upkeep does for the store**: nothing so far, or it made the one offer
there was to make. -/
inductive Served (db db' : Database) : Prop
  | waiting (hoffers : db'.offers = db.offers) (hdirty : db'.isDirty 0 = db.isDirty 0)
  | offered {o : Offer} (hstore : o.store = 0) (hdirty : db.isDirty 0 = true)
      (hclean : db'.isDirty 0 = false) (hoffers : db'.offers = db.offers ++ [o])
      (hsnapshot : db.snapshot? 0 = some o.snapshot)

theorem Served.congr {db'' : Database} (h : Served db db') (hoffers : db''.offers = db'.offers)
    (hdirty : db''.isDirty 0 = db'.isDirty 0) : Served db db'' := by
  cases h with
  | waiting hoffers' hdirty' => exact .waiting (hoffers.trans hoffers') (hdirty.trans hdirty')
  | offered hstore hmarked hclean hoffers' hsnapshot =>
    exact .offered hstore hmarked (hdirty.trans hclean) (hoffers.trans hoffers') hsnapshot

/-- **Upkeep keeps the invariant**, and of one store it makes one offer at
most. -/
theorem Tracked.upkept (h : Tracked db) (hdb : Sound db) (hu : Upkept db db') :
    Tracked db' ∧ Served db db' := by
  have hall : Sound db' ∧ SameData db db' ∧ Tracked db' ∧ Served db db' := by
    refine hu.induction (P := fun db₁ => Sound db₁ ∧ SameData db db₁ ∧ Tracked db₁ ∧ Served db db₁)
      ⟨hdb, .refl db, h, .waiting rfl rfl⟩ (fun db₁ s ih => ?_) (fun db₁ s signal ih => ?_)
      fun db₁ time ih => ?_
    · obtain ⟨hdb₁, hdata, htracked, hserved⟩ := ih
      refine ⟨hdb₁.flush s, hdata.trans sameData_flush, ?_⟩
      cases hdirty : db₁.isDirty s with
      | false =>
        rw [flush_of_clean hdirty]
        exact ⟨htracked, hserved⟩
      | true =>
        -- there is no other store
        obtain rfl : s = 0 := by
          have hlt := lt_length_of_isDirty hdirty
          rw [htracked.one] at hlt
          exact Nat.lt_one_iff.1 hlt
        refine ⟨htracked.flush hdb₁ hdirty, ?_⟩
        cases hserved with
        | waiting hoffers hsame =>
          obtain ⟨v, hv, -, -, hoffered, -⟩ := flush_of_dirty hdb₁ hdirty
          rw [hoffers] at hoffered
          rw [hdata.snapshot] at hv
          exact .offered rfl (hsame ▸ hdirty) (by rw [isDirty_flush, if_pos rfl]) hoffered hv
        | offered _ _ hclean =>
          rw [hclean] at hdirty
          cases hdirty
    · obtain ⟨hdb₁, hdata, htracked, hserved⟩ := ih
      exact ⟨hdb₁.tell s signal, hdata.trans sameData_tell, htracked.prepares prepares_tell,
        hserved.congr rfl isDirty_tell⟩
    · obtain ⟨hdb₁, hdata, htracked, hserved⟩ := ih
      exact ⟨hdb₁.setClock time, hdata.trans (sameData_clock time),
        htracked.prepares (prepares_clock time), hserved.congr rfl rfl⟩
  exact hall.2.2

/-- What a step tells of its offers: it makes one at most, of the snapshot
there is after it, and if it makes none and leaves the store clean, the
snapshot stays, or was none. -/
structure Advances (db db' : Database) : Prop where
  offered : db'.offers = db.offers ∨ ∃ o, o.store = 0 ∧ db'.offers = db.offers ++ [o] ∧
    db'.snapshot? 0 = some o.snapshot
  quiet : db'.offers = db.offers → db'.isDirty 0 = false →
    db.isDirty 0 = false ∧ (db.snapshot? 0 = none ∨ db'.snapshot? 0 = db.snapshot? 0)

end Database

namespace Session

open Database

variable {x : Session} {a : Action} {actions : List Action} {t m : Nat}

/-- **No operation forgets the mark.** -/
theorem prepares_effect (hx : x.Sound) (hone : x.database.stores.length = 1)
    (hstore : x.store = some 0 ∨ x.store = none) (ha : a.IsSolo) :
    Prepares x.database (x.effect a) := by
  have hedit : Prepares x.database (x.database.edited (x.edit? a)) := by
    cases he : x.edit? a with
    | none => exact Prepares.refl _
    | some made => exact prepares_edit hone (hx.allowed he)
  cases a with
  | onStore a =>
    cases a with
    | init =>
      simp only [effect]
      rcases hstore with hs | hs
      · cases hinit : x.database.init 0 with
        | error e => simpa [hs, hinit, Except.toOption] using Prepares.refl x.database
        | ok db => simpa [hs, hinit, Except.toOption] using prepares_init hinit
      · simpa [hs] using Prepares.refl x.database
    | _ => exact hedit
  | onHost a =>
    cases a with
    | persist value => exact ha.elim
    | setFailing failing =>
      exact ⟨rfl, rfl, rfl, fun v hv => hv.setFailing failing, .inr ⟨rfl, .inr rfl⟩⟩
  | reopen config => exact ha.elim
  | onView view a => exact hedit
  | onHandle handle a => exact hedit
  | drop => exact hedit
  | wait nanos => exact hedit

/-- **A step keeps track**, and says what it offered. -/
theorem tracked_step (hx : x.Sound) (h : x.database.Tracked)
    (hstore : x.store = some 0 ∨ x.store = none) (ha : a.IsSolo) :
    (x.step a).1.database.Tracked ∧ Advances x.database (x.step a).1.database := by
  have hprepares := prepares_effect hx h.one hstore ha
  have hupkept := step_effect hx ha.ne_reopen
  have htracked := h.prepares hprepares
  have hquiet (hclean : (x.effect a).isDirty 0 = false) : x.database.isDirty 0 = false ∧
      (x.database.snapshot? 0 = none ∨ (x.effect a).snapshot? 0 = x.database.snapshot? 0) := by
    rcases hprepares.marked with hdirty | ⟨hsame, hsnapshot⟩
    · rw [hclean] at hdirty
      cases hdirty
    · exact ⟨hsame ▸ hclean, hsnapshot⟩
  obtain ⟨hsound, -⟩ := sound_effect hx a
  obtain ⟨hkept, hserved⟩ := htracked.upkept hsound hupkept
  refine ⟨hkept, ?_⟩
  cases hserved with
  | waiting hoffers hdirty =>
    refine ⟨.inl (hoffers.trans hprepares.offers), fun _ hclean => ?_⟩
    rw [hupkept.sameData.snapshot]
    exact hquiet (hdirty ▸ hclean)
  | @offered o hstore hdirty hclean hoffers hsnapshot =>
    rw [hprepares.offers] at hoffers
    refine ⟨.inr ⟨o, hstore, hoffers, ?_⟩, fun hsame => ?_⟩
    · rw [hupkept.sameData.snapshot, hsnapshot]
    · rw [hoffers] at hsame
      simp at hsame

/-! ## Runs -/

/-- A session with one store, which has offered nothing yet. -/
structure Begun (x : Session) : Prop where
  sound : x.Sound
  tracked : x.database.Tracked
  store : x.store = some 0 ∨ x.store = none
  offers : x.database.offers = []

theorem begun_start (host : Host) (config : Config) (words : List UInt32) :
    (start host config words).Begun where
  sound := sound_start host config words
  tracked := ⟨rfl, rfl, fun before o after heq => by
    have hlength := congrArg List.length heq
    simp [start, Database.new, addStore] at hlength, fun _ o ho => by cases ho⟩
  store := .inl rfl
  offers := rfl

/-- At every moment of a run the store is the session's, unless it was given
up. -/
theorem Begun.store_moment (hx : x.Begun) (ha : ∀ a ∈ actions, a.IsSolo) (t : Nat) :
    (x.moment actions t).store = some 0 ∨ (x.moment actions t).store = none := by
  refine moment_le_induction (P := fun y => y.store = some 0 ∨ y.store = none) (Nat.zero_le t)
    hx.store fun k a _ _ hk hstore => ?_
  rcases store_step (hx.sound.moment actions k)
    (ha a (List.mem_of_getElem? hk)).ne_reopen with hsame | hnone
  · rwa [hsame]
  · exact .inr hnone

/-- **Every moment is tracked.** -/
theorem Begun.tracked_moment (hx : x.Begun) (ha : ∀ a ∈ actions, a.IsSolo) (t : Nat) :
    (x.moment actions t).database.Tracked :=
  moment_le_induction (P := fun y => y.database.Tracked) (Nat.zero_le t) hx.tracked
    fun k a _ _ hk h => (tracked_step (hx.sound.moment actions k) h (hx.store_moment ha k)
      (ha a (List.mem_of_getElem? hk))).1

/-- And from each to the next the database advances. -/
theorem Begun.advances_moment (hx : x.Begun) (ha : ∀ a ∈ actions, a.IsSolo) (t : Nat) :
    Advances (x.moment actions t).database (x.moment actions (t + 1)).database := by
  cases hat : actions[t]? with
  | none =>
    rw [moment_succ_of_none hat]
    exact ⟨.inl rfl, fun _ hclean => ⟨hclean, .inr rfl⟩⟩
  | some a =>
    rw [moment_succ hat]
    exact (tracked_step (hx.sound.moment actions t) (hx.tracked_moment ha t) (hx.store_moment ha t)
      (ha a (List.mem_of_getElem? hat))).2

/-- **Every offer was made at some step**, of the snapshot that the step
left. -/
theorem Begun.exists_offered (hx : x.Begun) (ha : ∀ a ∈ actions, a.IsSolo)
    {before after : List Offer} {o : Offer}
    (heq : (x.moment actions t).database.offers = before ++ o :: after) :
    ∃ m < t, (x.moment actions m).database.offers = before ∧
      (x.moment actions (m + 1)).database.offers = before ++ [o] ∧
      (x.moment actions (m + 1)).database.snapshot? 0 = some o.snapshot := by
  induction t generalizing after with
  | zero =>
    rw [moment_zero, hx.offers] at heq
    simp at heq
  | succ t ih =>
    have hearlier {after : List Offer}
        (heq : (x.moment actions t).database.offers = before ++ o :: after) :=
      (ih heq).imp fun m ⟨hm, hoffered⟩ => And.intro (Nat.lt_succ_of_lt hm) hoffered
    rcases (hx.advances_moment ha t).offered with hsame | ⟨o', -, hoffers, hsnapshot⟩
    · rw [hsame] at heq
      exact hearlier heq
    · -- the offer is the last one, of this step, or one of those before it
      rw [hoffers] at heq
      rcases List.eq_nil_or_concat after with rfl | ⟨after, last, rfl⟩
      · obtain ⟨hbefore, hlast⟩ := List.append_inj' heq rfl
        cases hlast
        exact ⟨t, Nat.lt_succ_self t, hbefore, hbefore ▸ hoffers, hsnapshot⟩
      · rw [List.concat_eq_append, ← List.cons_append, ← List.append_assoc] at heq
        exact hearlier (List.append_inj' heq rfl).1

/-- As long as nothing was offered and the store is clean, it has the
snapshot it was initialized with. -/
theorem Begun.snapshot_of_quiet (hx : x.Begun) (ha : ∀ a ∈ actions, a.IsSolo)
    (hclean : (x.moment actions t).database.isDirty 0 = false)
    (hoffers : (x.moment actions t).database.offers = []) (hm : m ≤ t) {v : Value}
    (hv : (x.moment actions m).database.snapshot? 0 = some v) :
    (x.moment actions t).database.snapshot? 0 = some v := by
  induction hm with
  | refl => exact hv
  | @step t hm ih =>
    obtain ⟨hoffered, hquiet⟩ := hx.advances_moment ha t
    have hbefore : (x.moment actions t).database.offers = [] := by
      rcases hoffered with hsame | ⟨o, -, happend, -⟩
      · rw [← hsame, hoffers]
      · rw [hoffers] at happend
        simp at happend
    obtain ⟨hcleanBefore, hsnapshot⟩ := hquiet (by rw [hoffers, hbefore]) hclean
    have hvt := ih hcleanBefore hbefore
    rcases hsnapshot with hnone | hsame
    · rw [hvt] at hnone; cases hnone
    · rw [hsame, hvt]

/-- The operation that flushes the store does just that, and says whether
there was something to persist. -/
theorem step_flush (hx : x.Sound) (hone : x.database.stores.length = 1)
    (hstore : x.store = some 0) :
    (x.step (.onStore .flush)).1.database = (x.database.flush 0).1 ∧
      (x.step (.onStore .flush)).2 = .ok (.flag (x.database.isDirty 0)) := by
  have htried : (x.database.flush 0).2 = x.database.isDirty 0 := by
    cases hdirty : x.database.isDirty 0 with
    | true =>
      obtain ⟨v, -, htried, -⟩ := flush_of_dirty hx.database hdirty
      exact htried
    | false => rw [flush_of_clean hdirty]
  simp only [step, hstore]
  refine ⟨?_, by rw [← htried]; rfl⟩
  -- the store is held, so that there is none to give up
  have hgiven : (List.range (x.database.flush 0).1.stores.length).filter (fun s =>
      !({ x with database := (x.database.flush 0).1 } : Session).holds s) = [] := by
    rw [sameData_flush.length, hone]
    simp [holds, hstore]
  show (release { x with database := (x.database.flush 0).1 }).database = _
  unfold release
  dsimp only
  rw [hgiven]
  rfl

/-- **What is persisted tracks what is in memory.** At every moment of a run
on one store: a flush of the dirty store makes one offer, and one of the
clean store none; the mark goes only with an offer; the store counts the
accepted offers; the host holds the last accepted one, which is the snapshot
the store had after the step that made it; and the clean store has the
snapshot the host holds, if the last offer was accepted, and the one it was
initialized with, if there was no offer. -/
theorem persisted_tracks_memory (host : Host) (config : Config) (words : List UInt32)
    (actions : List Action) (ha : ∀ a ∈ actions, a.IsSolo) (t : Nat) :
    let x := start host config words
    let db (t : Nat) := (x.moment actions t).database
    ((db t).isDirty 0 = true → ∃ v, (db t).snapshot? 0 = some v ∧ ((db t).flush 0).2 = true ∧
      ((db t).flush 0).1.offers = (db t).offers ++ [⟨0, v, ((db t).host.persist v).2⟩] ∧
      ((db t).flush 0).1.isDirty 0 = false) ∧
    ((db t).isDirty 0 = false → (db t).flush 0 = (db t, false)) ∧
    ((x.moment actions t).store = some 0 →
      ((x.moment actions t).step (.onStore .flush)).1.database = ((db t).flush 0).1 ∧
      ((x.moment actions t).step (.onStore .flush)).2 = .ok (.flag ((db t).isDirty 0))) ∧
    ((db t).isDirty 0 = true → (db (t + 1)).isDirty 0 = false →
      ∃ o, (db (t + 1)).offers = (db t).offers ++ [o]) ∧
    (db t).flushCount 0 = ((db t).offers.filter Offer.accepted).length ∧
    (∀ before o after, (db t).offers = before ++ o :: after → o.accepted = true →
      (∀ o' ∈ after, o'.accepted = false) → (db t).host.Holds o.snapshot ∧
        ∃ m < t, (db m).offers = before ∧ (db (m + 1)).offers = before ++ [o] ∧
          (db (m + 1)).snapshot? 0 = some o.snapshot) ∧
    ((db t).isDirty 0 = false → ∀ o, (db t).offers.getLast? = some o → o.accepted = true →
      ∃ v, (db t).snapshot? 0 = some v ∧ (db t).host.Holds v) ∧
    ((db t).isDirty 0 = false → (db t).offers = [] → ∀ m ≤ t, ∀ v,
      (db m).snapshot? 0 = some v → (db t).snapshot? 0 = some v) := by
  intro x db
  have hx : x.Begun := begun_start host config words
  have hsound := hx.sound.moment actions t
  have htracked := hx.tracked_moment ha t
  refine ⟨fun hdirty => ?_, flush_of_clean, step_flush hsound htracked.one, fun hdirty hclean => ?_,
    htracked.count, fun before o after heq hacc hafter => ?_, fun hclean o ho hacc => ?_,
    fun hclean hoffers m hm v hv => hx.snapshot_of_quiet ha hclean hoffers hm hv⟩
  · obtain ⟨v, hv, htried, -, hoffers, -⟩ := flush_of_dirty hsound.database hdirty
    exact ⟨v, hv, htried, hoffers, by rw [isDirty_flush, if_pos rfl]⟩
  · obtain ⟨hoffered, hquiet⟩ := hx.advances_moment ha t
    rcases hoffered with hsame | ⟨o, -, hoffers, -⟩
    · have := (hquiet hsame hclean).1
      rw [hdirty] at this
      cases this
    · exact ⟨o, hoffers⟩
  · exact ⟨htracked.holds before o after heq hacc hafter, hx.exists_offered ha heq⟩
  · have hlast := List.getLast?_eq_some_iff.1 ho
    obtain ⟨before, hbefore⟩ := hlast
    exact ⟨o.snapshot, htracked.current hclean o ho,
      htracked.holds before o [] hbefore hacc fun o' ho' => by simp at ho'⟩

/-- A run whose second mutation the host refuses to persist. -/
def refusing : List Action :=
  [.onStore .init, .onStore (.createCollection "t" "c"), .onHost (.setFailing true),
    .onView "c" (.add (.object [("_id", .string "a")])), .onHost (.setFailing false),
    .onView "c" (.add (.object [("_id", .string "b")]))]

/-- The host holds the document of the refused offer too in the end. -/
theorem persisted_tracks_memory_refusing :
    let db := ((start (.memory (.new none)) .immediate []).moment refusing 6).database
    let v : Value := .object [("t", .object [("a", .object []), ("b", .object [])])]
    (∀ a ∈ refusing, a.IsSolo) ∧ db.offers.map Offer.accepted = [true, false, true] ∧
      db.flushCount 0 = 2 ∧ db.host.Holds v := by
  intro db v
  have ha : ∀ a ∈ refusing, a.IsSolo := by simp [refusing, Action.IsSolo]
  have htracks := persisted_tracks_memory (.memory (.new none)) .immediate [] refusing ha 6
  have hsnapshot : db.snapshot? 0 = some v := rfl
  obtain ⟨w, hw, hheld⟩ := htracks.2.2.2.2.2.2.1 rfl ⟨0, v, true⟩ rfl rfl
  have heq : v = w := Option.some.inj (hsnapshot.symm.trans hw)
  exact ⟨ha, rfl, htracks.2.2.2.2.1, heq ▸ hheld⟩

end Session

end DocumentStore
