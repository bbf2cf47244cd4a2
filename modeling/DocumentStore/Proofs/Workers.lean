import DocumentStore.Proofs.Soundness

/-!
# Workers — what signals do to a store

A signal is for the worker of one store, and all it does to that store is a turn
of the worker and, if the turn says so, a flush (`worker?_signal`,
`isDirty_signal`); to receive it twice is to receive it once
(`Phase.turn_turn`). Only a mutation makes a worker panic, and only giving up
its store makes it exit. A worker disarms itself by flushing, so that a dirty
store is one whose worker is armed, or has panicked (`Attended`), and upkeep
keeps it so.
-/

namespace DocumentStore

/-! ## Turns -/

namespace Phase

variable {phase : Phase} {delay : Delay} {signal : Signal} {time : Instant}

/-- A mutation arms a worker that waits for one if the deadline can be
represented, and else makes it panic. -/
theorem arm_cases (delay : Delay) (time : Instant) :
    (time + delay.toNanos < Instant.bound ∧ arm delay time = .armed (time + delay.toNanos)) ∨
      (¬ time + delay.toNanos < Instant.bound ∧ arm delay time = .panicked) := by
  unfold arm
  split
  · next h => exact .inl ⟨h, rfl⟩
  · next h => exact .inr ⟨h, rfl⟩

/-- **A second signal of a kind** changes nothing. -/
theorem turn_turn (delay : Delay) (phase : Phase) (signal : Signal) :
    (phase.turn delay signal).1.turn delay signal = ((phase.turn delay signal).1, false) := by
  cases signal with
  | mutation time =>
    cases phase with
    | idle =>
      rcases arm_cases delay time with ⟨-, harm⟩ | ⟨-, harm⟩
      · simp only [turn, harm]
      · simp only [turn, harm]
    | _ => rfl
  | timeout => cases phase <;> rfl
  | disconnect => cases phase <;> rfl

/-- A worker that is gone receives nothing. -/
theorem turn_of_isGone (h : phase.isGone = true) : phase.turn delay signal = (phase, false) := by
  cases phase with
  | idle => cases h
  | armed deadline => cases h
  | exited => cases signal <;> rfl
  | panicked => cases signal <;> rfl

/-- No mutation is flushed on. -/
theorem turn_mutation_flushes : (phase.turn delay (.mutation time)).2 = false := by
  cases phase <;> rfl

/-- **A mutation leaves a worker armed, or gone.** -/
theorem turn_mutation_ne_idle : (phase.turn delay (.mutation time)).1 ≠ .idle := by
  cases phase with
  | idle => rcases arm_cases delay time with ⟨-, harm⟩ | ⟨-, harm⟩ <;> simp [turn, harm]
  | _ => simp [turn]

/-- Nothing else makes it panic, -/
theorem turn_eq_panicked_iff (h : ∀ time, signal ≠ .mutation time) :
    (phase.turn delay signal).1 = .panicked ↔ phase = .panicked := by
  cases signal with
  | mutation time => exact absurd rfl (h time)
  | timeout => cases phase <;> simp [turn]
  | disconnect => cases phase <;> simp [turn]

/-- and it exits only when its store is given up. -/
theorem turn_eq_exited_iff (h : signal ≠ .disconnect) :
    (phase.turn delay signal).1 = .exited ↔ phase = .exited := by
  cases signal with
  | mutation time =>
    cases phase with
    | idle => rcases arm_cases delay time with ⟨-, harm⟩ | ⟨-, harm⟩ <;> simp [turn, harm]
    | _ => simp [turn]
  | timeout => cases phase <;> simp [turn]
  | disconnect => exact absurd rfl h

/-- A worker flushes when its deadline passes. -/
theorem turn_timeout_flushes : (phase.turn delay .timeout).2 = phase.deadline?.isSome := by
  cases phase <;> rfl

/-- It flushes for the last time when its store is given up, -/
theorem turn_disconnect_flushes : (phase.turn delay .disconnect).2 = !phase.isGone := by
  cases phase <;> rfl

/-- and then it is gone. -/
theorem isGone_turn_disconnect : (phase.turn delay .disconnect).1.isGone = true := by
  cases phase <;> rfl

/-- A worker that is armed, or that died, stays so but for a flush. -/
theorem owes_turn (h : phase = .panicked ∨ ∃ deadline, phase = .armed deadline) :
    (phase.turn delay signal).2 = true ∨ (phase.turn delay signal).1 = phase := by
  rcases h with rfl | ⟨deadline, rfl⟩
  · cases signal <;> exact .inr rfl
  · cases signal with
    | mutation time => exact .inr rfl
    | timeout => exact .inl rfl
    | disconnect => exact .inl rfl

end Phase

namespace Database

variable {db db' : Database} {s t : StoreId} {signal : Signal} {w : Worker} {phase : Phase}

/-! ## The worker of a store -/

theorem worker?_congr (h : Keeps Store.worker db db') (t : StoreId) :
    db'.worker? t = db.worker? t := h.bind_eq t

theorem phase?_congr (h : Keeps Store.worker db db') (t : StoreId) :
    db'.phase? t = db.phase? t := by
  rw [phase?, phase?, worker?_congr h]

/-- The worker of a store after it received a signal. -/
theorem worker?_modifyStore {f : Store → Store} (h : ∀ store, (f store).worker =
      store.worker.map fun w => (w.receive signal).1) : (db.modifyStore s f).worker? t =
    if s = t then (db.worker? t).map fun w => (w.receive signal).1 else db.worker? t := by
  simp only [worker?, modifyStore, List.getElem?_modify]
  cases db.stores[t]? with
  | none => simp
  | some store =>
    split
    · simp [h]
    · simp

theorem worker?_mark : (db.mark s).worker? t =
    if s = t then (db.worker? t).map fun w => (w.receive (.mutation db.clock)).1
    else db.worker? t :=
  worker?_modifyStore fun _ => rfl

theorem worker?_tell : (db.tell s signal).worker? t =
    if s = t then (db.worker? t).map fun w => (w.receive signal).1 else db.worker? t :=
  worker?_modifyStore fun _ => rfl

theorem worker?_flush : (db.flush s).1.worker? t = db.worker? t :=
  worker?_congr (keeps_flush (fun _ _ => rfl) fun _ _ => rfl) t

/-- **A signal is a turn of the worker it is for**, -/
theorem worker?_signal : (db.signal s signal).worker? t =
    if s = t then (db.worker? t).map fun w => (w.receive signal).1 else db.worker? t := by
  unfold Database.signal
  split
  · rw [worker?_flush, worker?_tell]
  · exact worker?_tell

/-- and a flush of its store, if the turn says so. -/
theorem isDirty_signal : (db.signal s signal).isDirty t =
    if s = t ∧ db.flushesOn s signal = true then false else db.isDirty t := by
  unfold Database.signal
  by_cases hflush : db.flushesOn s signal = true
  · rw [if_pos hflush, isDirty_flush, isDirty_tell]
    by_cases hst : s = t
    · rw [if_pos hst, if_pos ⟨hst, hflush⟩]
    · rw [if_neg hst, if_neg fun h => hst h.1]
  · rw [if_neg hflush, isDirty_tell, if_neg fun h => hflush h.2]

/-- **Where a worker is after a signal**: where it was, if the signal was for
another, or a turn further. -/
theorem phase?_of_turned
    (h : db'.worker? t = if s = t then (db.worker? t).map fun w => (w.receive signal).1
      else db.worker? t) (hphase : db'.phase? t = some phase) :
    (s ≠ t ∧ db.phase? t = some phase) ∨
      (s = t ∧ ∃ w, db.worker? s = some w ∧ (w.phase.turn w.delay signal).1 = phase) := by
  rw [phase?, h] at hphase
  by_cases hst : s = t
  · subst hst
    rw [if_pos rfl, Option.map_map] at hphase
    obtain ⟨w, hw, hturn⟩ := Option.map_eq_some_iff.1 hphase
    exact .inr ⟨rfl, w, hw, hturn⟩
  · rw [if_neg hst] at hphase
    exact .inl ⟨hst, hphase⟩

theorem phase?_of_worker? (hw : db.worker? s = some w) : db.phase? s = some w.phase := by
  rw [phase?, hw, Option.map_some]

/-- A worker that is gone is not moved by a signal. -/
theorem phase?_of_isGone_of_turned
    (h : db'.worker? t = if s = t then (db.worker? t).map fun w => (w.receive signal).1
      else db.worker? t) (hphase : db.phase? t = some phase) (hgone : phase.isGone = true) :
    db'.phase? t = some phase := by
  obtain ⟨w, hw, rfl⟩ := Option.map_eq_some_iff.1 hphase
  rw [phase?, h, hw]
  split
  · simp [Worker.receive, Phase.turn_of_isGone hgone]
  · rfl

/-- No mark makes a worker exit. -/
theorem exited_of_mark (h : (db.mark s).phase? t = some .exited) : db.phase? t = some .exited := by
  rcases phase?_of_turned worker?_mark h with ⟨-, hexited⟩ | ⟨rfl, w, hw, hturn⟩
  · exact hexited
  · rw [phase?_of_worker? hw, (Phase.turn_eq_exited_iff (by simp)).1 hturn]

/-- A signal that is received to no effect. -/
theorem signal_of_idle (h : ∀ w, db.worker? s = some w → w.receive signal = (w, false)) :
    db.signal s signal = db := by
  have hflush : db.flushesOn s signal = false := by
    unfold flushesOn
    cases hw : db.worker? s with
    | none => rfl
    | some w => simp [h w hw]
  have hhear : ∀ store, db.stores[s]? = some store → store.hear signal = store := by
    intro store hstore
    obtain ⟨config, collections, dirty, flushes, worker, delay_worker⟩ := store
    cases worker with
    | none => rfl
    | some w => simp [Store.hear, h w (by rw [worker?, hstore]; rfl)]
  rw [Database.signal, if_neg (by simp [hflush]), tell, modifyStore]
  congr 1
  refine List.ext_getElem? fun t => ?_
  rw [List.getElem?_modify]
  by_cases hst : s = t
  · subst hst
    cases hstore : db.stores[s]? with
    | none => rfl
    | some store => simp [hhear store hstore]
  · simp [hst]

/-- **Marking is a signal**: what a mutation tells the worker, it only turns
on. -/
theorem mark_eq_signal : db.mark s =
    (db.modifyStore s fun store => { store with dirty := true }).signal s
      (.mutation db.clock) := by
  have hquiet (db : Database) (time : Instant) : db.flushesOn s (.mutation time) = false := by
    unfold flushesOn
    cases db.worker? s with
    | none => rfl
    | some w => exact Phase.turn_mutation_flushes
  rw [Database.signal, if_neg (by simp [hquiet]), mark, tell, modifyStore, modifyStore, modifyStore]
  congr 1
  refine List.ext_getElem? fun t => ?_
  simp only [List.getElem?_modify]
  cases db.stores[t]? with
  | none => rfl
  | some store => by_cases hst : s = t <;> simp [hst]

/-- When the deadlines of some stores pass, or some are given up, each of their
workers turns once. -/
theorem worker?_foldl_signal (ss : List StoreId) (db : Database) :
    (ss.foldl (fun db s => db.signal s signal) db).worker? t =
      if t ∈ ss then (db.worker? t).map fun w => (w.receive signal).1 else db.worker? t := by
  induction ss generalizing db with
  | nil => rfl
  | cons s rest ih =>
    have htwice (w : Worker) : ((w.receive signal).1.receive signal).1 = (w.receive signal).1 := by
      have hturn := congrArg Prod.fst (Phase.turn_turn w.delay w.phase signal)
      simpa [Worker.receive] using hturn
    rw [List.foldl_cons, ih, worker?_signal]
    by_cases hst : s = t
    · subst hst
      cases db.worker? s with
      | none => simp
      | some w => simp [htwice]
    · have hts : ¬ t = s := fun h => hst h.symm
      simp [hst, hts]

/-! ## Deadlines -/

theorem mem_insertDue {entry e : Instant × StoreId} {sorted : List (Instant × StoreId)} :
    e ∈ insertDue entry sorted ↔ e = entry ∨ e ∈ sorted := by
  induction sorted with
  | nil => simp [insertDue]
  | cons other rest ih =>
    unfold insertDue
    split
    · exact List.mem_cons
    · rw [List.mem_cons, ih, List.mem_cons]
      exact or_left_comm

theorem mem_foldr_insertDue {e : Instant × StoreId} {entries : List (Instant × StoreId)} :
    e ∈ entries.foldr insertDue [] ↔ e ∈ entries := by
  induction entries with
  | nil => exact Iff.rfl
  | cons entry rest ih => rw [List.foldr_cons, mem_insertDue, ih, List.mem_cons]

theorem pending?_eq_some_iff {deadline : Instant} :
    db.pending? s = some (deadline, t) ↔ s = t ∧ db.deadline? s = some deadline := by
  simp only [pending?, Option.map_eq_some_iff, Prod.mk.injEq]
  constructor
  · rintro ⟨d, hd, rfl, rfl⟩
    exact ⟨rfl, hd⟩
  · rintro ⟨rfl, hd⟩
    exact ⟨deadline, hd, rfl, rfl⟩

/-- **The deadlines** are those of the workers that are armed, -/
theorem mem_deadlines_iff {deadline : Instant} :
    (deadline, s) ∈ db.deadlines ↔ db.deadline? s = some deadline := by
  simp only [deadlines, mem_foldr_insertDue, List.mem_filterMap, pending?_eq_some_iff,
    List.mem_range]
  constructor
  · rintro ⟨s, -, rfl, hd⟩
    exact hd
  · intro hd
    refine ⟨s, Nat.lt_of_not_le fun hge => ?_, rfl, hd⟩
    simp [deadline?, phase?, worker?, List.getElem?_eq_none hge] at hd

theorem insertDue_sorted {entry : Instant × StoreId} {sorted : List (Instant × StoreId)}
    (h : sorted.Pairwise fun before after => before.1 ≤ after.1) :
    (insertDue entry sorted).Pairwise fun before after => before.1 ≤ after.1 := by
  induction h with
  | nil => simp [insertDue]
  | @cons other rest hfirst hrest ih =>
    unfold insertDue
    split
    · next hle =>
      refine List.pairwise_cons.2 ⟨fun e he => ?_, List.pairwise_cons.2 ⟨hfirst, hrest⟩⟩
      rcases List.mem_cons.1 he with rfl | he
      · exact hle
      · exact Nat.le_trans hle (hfirst e he)
    · next hlt =>
      refine List.pairwise_cons.2 ⟨fun e he => ?_, ih⟩
      rcases mem_insertDue.1 he with rfl | he
      · exact Nat.le_of_not_le hlt
      · exact hfirst e he

/-- in their order. -/
theorem deadlines_sorted (db : Database) :
    db.deadlines.Pairwise fun before after => before.1 ≤ after.1 := by
  unfold deadlines
  induction (List.range db.stores.length).filterMap db.pending? with
  | nil => exact .nil
  | cons entry rest ih => exact insertDue_sorted ih

/-- A store's deadline is reached at a time. -/
def Reached (db : Database) (s : StoreId) (time : Instant) : Prop :=
  ∃ deadline, db.deadline? s = some deadline ∧ deadline ≤ time

theorem mem_due_iff {time : Instant} : s ∈ db.due time ↔ db.Reached s time := by
  unfold due Reached
  rw [List.mem_map]
  constructor
  · rintro ⟨⟨deadline, t⟩, hmem, rfl⟩
    obtain ⟨hmem, hle⟩ := List.mem_filter.1 hmem
    exact ⟨deadline, mem_deadlines_iff.1 hmem, of_decide_eq_true hle⟩
  · rintro ⟨deadline, hdeadline, hle⟩
    exact ⟨(deadline, s), List.mem_filter.2 ⟨mem_deadlines_iff.2 hdeadline, decide_eq_true hle⟩, rfl⟩

/-- A worker flushes when its deadline passes, if it has one. -/
theorem flushesOn_timeout : db.flushesOn s .timeout = (db.deadline? s).isSome := by
  unfold flushesOn deadline? phase?
  cases db.worker? s with
  | none => rfl
  | some w => exact Phase.turn_timeout_flushes

/-- And a last time when its store is given up, unless it is gone. -/
theorem flushesOn_disconnect :
    db.flushesOn s .disconnect = (db.phase? s).any fun phase => !phase.isGone := by
  unfold flushesOn phase?
  cases db.worker? s with
  | none => rfl
  | some w => exact Phase.turn_disconnect_flushes

/-! ## What upkeep does to workers -/

/-- **Upkeep makes no worker panic**, and brings none back. -/
theorem Upkept.panicked_iff (h : Upkept db db') :
    db'.phase? s = some .panicked ↔ db.phase? s = some .panicked := by
  induction h with
  | refl => exact Iff.rfl
  | tail _ hdeed ih =>
    rw [← ih]
    cases hdeed with
    | flush t => rw [phase?, phase?, worker?_flush]
    | signal t hsignal =>
      rw [phase?, phase?, worker?_signal]
      split
      · simp [Worker.receive, Phase.turn_eq_panicked_iff hsignal]
      · exact Iff.rfl
    | clock time => exact Iff.rfl

/-- A worker that is gone stays where it is. -/
theorem Upkept.phase?_of_isGone (h : Upkept db db') (hphase : db.phase? s = some phase)
    (hgone : phase.isGone = true) : db'.phase? s = some phase := by
  induction h with
  | refl => exact hphase
  | tail _ hdeed ih =>
    cases hdeed with
    | flush t => rwa [phase?, worker?_flush]
    | signal t hsignal => exact phase?_of_isGone_of_turned worker?_signal ih hgone
    | clock time => exact ih

/-- **The stores are attended to**: a dirty one that has a worker has one that is
armed, or died. -/
def Attended (db : Database) : Prop :=
  ∀ s phase, db.phase? s = some phase → db.isDirty s = true →
    phase = .panicked ∨ ∃ deadline, phase = .armed deadline

/-- A worker that waits for a mutation, or has left its loop, has nothing to
flush. -/
theorem Attended.clean (h : Attended db) (hphase : db.phase? s = some phase)
    (hrest : phase = .idle ∨ phase = .exited) : db.isDirty s = false := by
  cases hdirty : db.isDirty s with
  | false => rfl
  | true => rcases h s phase hphase hdirty with rfl | ⟨deadline, rfl⟩ <;> simp at hrest

theorem Attended.congr (h : Attended db) (hworkers : Keeps Store.worker db db')
    (hmarks : Keeps Store.dirty db db') : Attended db' := by
  intro s phase hphase hdirty
  rw [phase?_congr hworkers] at hphase
  rw [isDirty_congr hmarks] at hdirty
  exact h s phase hphase hdirty

/-- **A mark is attended to**, if there is a worker that has not exited. -/
theorem attended_mark (h : Attended db) (hhere : db.phase? s ≠ some .exited) :
    Attended (db.mark s) := by
  intro t phase hphase hdirty
  rcases phase?_of_turned worker?_mark hphase with ⟨hst, hphase⟩ | ⟨rfl, w, hw, rfl⟩
  · rw [isDirty_mark, if_neg hst] at hdirty
    exact h t phase hphase hdirty
  · cases hturn : (w.phase.turn w.delay (.mutation db.clock)).1 with
    | idle => exact absurd hturn Phase.turn_mutation_ne_idle
    | armed deadline => exact .inr ⟨deadline, rfl⟩
    | panicked => exact .inl rfl
    | exited =>
      have hexited : w.phase = .exited := (Phase.turn_eq_exited_iff (by simp)).1 hturn
      exact absurd (hexited ▸ phase?_of_worker? hw) hhere

/-- A signal flushes the store, or leaves its worker as it was if there is
something to flush. -/
theorem attended_signal (h : Attended db) : Attended (db.signal s signal) := by
  intro t phase hphase hdirty
  rw [isDirty_signal] at hdirty
  rcases phase?_of_turned worker?_signal hphase with ⟨hst, hphase⟩ | ⟨rfl, w, hw, rfl⟩
  · rw [if_neg fun hboth => hst hboth.1] at hdirty
    exact h t phase hphase hdirty
  · split at hdirty
    · cases hdirty
    · next hquiet =>
      have howes := h s w.phase (phase?_of_worker? hw) hdirty
      rcases Phase.owes_turn howes with hflush | hstill
      · exact absurd ⟨rfl, by rw [flushesOn, hw]; exact hflush⟩ hquiet
      · rwa [hstill]

/-- **Upkeep keeps stores attended to.** -/
theorem Attended.upkept (h : Attended db) (hu : Upkept db db') : Attended db' := by
  induction hu with
  | refl => exact h
  | tail _ hdeed ih =>
    cases hdeed with
    | flush s =>
      intro t phase hphase hdirty
      rw [phase?, worker?_flush] at hphase
      rw [isDirty_flush] at hdirty
      split at hdirty
      · cases hdirty
      · exact ih t phase hphase hdirty
    | signal s _ => exact attended_signal ih
    | clock time => exact ih

/-- **Upkeep under which no worker exits.** -/
structure Tended (db db' : Database) : Prop where
  upkept : Upkept db db'
  exited : ∀ s, db'.phase? s = some .exited → db.phase? s = some .exited

theorem Tended.refl (db : Database) : Tended db db := ⟨.refl, fun _ h => h⟩

theorem Tended.trans {db'' : Database} (h : Tended db db') (h' : Tended db' db'') :
    Tended db db'' :=
  ⟨h.upkept.trans h'.upkept, fun s hs => h.exited s (h'.exited s hs)⟩

theorem tended_flush : Tended db (db.flush s).1 :=
  ⟨upkept_flush, fun t ht => by rwa [phase?, worker?_flush] at ht⟩

theorem tended_touch : Tended (db.mark s) (db.touch s) := by
  unfold touch
  dsimp only
  split
  · exact tended_flush
  · exact .refl _

/-- No worker exits because time passes. -/
theorem tended_elapse (time : Instant) : Tended db (db.elapse time) := by
  refine ⟨upkept_elapse time, fun s hs => ?_⟩
  have hturned : (db.elapse time).phase? s =
      ((db.due time).foldl (fun db s => db.signal s .timeout) db).phase? s := rfl
  rw [hturned, phase?, worker?_foldl_signal] at hs
  split at hs
  · simpa [phase?, Worker.receive, Phase.turn_eq_exited_iff] using hs
  · exact hs

end Database

theorem Session.tended_awaitTimer {x : Session} {s : StoreId} :
    Database.Tended x.database (x.awaitTimer s) := by
  unfold awaitTimer
  split
  · exact Database.tended_elapse _
  · exact .refl _

end DocumentStore
