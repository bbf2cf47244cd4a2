import DocumentStore.Proofs.Numbering
import Mathlib.Data.List.Induction

/-!
# Processes — sessions that share one supply of generations

A session has one host. A process has a session for every host it uses, and
all of them take their generations from one supply (`Process.step`): the
session that performs an operation takes over the next generation, and what
it leaves is the next generation of all. Hosts may have a file in common: what
one session writes there is a write from outside for the host of another
(`HostAction`). A process with one session is the session
(`Process.run_single`).

Since the supply only goes up, a session that was idle for a while is as
sound as before with the generation it then takes over
(`Session.Sound.numberFrom`), and what it stores is numbered behind all that
is stored anywhere. That is why generations are apart in the whole process
(`Process.Sound`) and at all times (`Process.issued_unique`), and why the
generations that views and handles have are each of one document, which was
stored under the id they have it for (`Process.holdsIssued_run`).
-/

namespace DocumentStore

open Database

namespace Session

variable {x : Session} {n : Nat}

/-- The session with another next generation. -/
def numberFrom (x : Session) (n : Nat) : Session :=
  { x with database := { x.database with generation := n } }

/-- A later generation changes nothing that there is. -/
theorem evolves_numberFrom (h : x.database.generation ≤ n) :
    Evolves x.database (x.numberFrom n).database where
  initialized _ hs := hs
  roots := Nat.le_refl _
  generation := h
  stamps _ := Entries.exists_kept (List.Sublist.refl _)

/-- **A sound session may take over a later generation.** -/
theorem Sound.numberFrom (hx : x.Sound) (h : x.database.generation ≤ n) :
    (x.numberFrom n).Sound where
  database :=
    { distinct := hx.database.distinct
      id_ne := hx.database.id_ne
      lt_generation := fun r id e he => Nat.lt_of_lt_of_le (hx.database.lt_generation r id e he) h
      named := fun s names hnames => (hx.database.named s names hnames).mono (Nat.le_refl _)
      initialized := hx.database.initialized }
  view name v hv := (hx.view name v hv).evolves hx.database (evolves_numberFrom h)
  handle name d hd := (hx.handle name d hd).evolves (evolves_numberFrom h)

end Session

/-- A process: a session for each of its hosts, and the next generation. -/
structure Process where
  sessions : List Session
  generation : Nat

namespace Process

/-- What happens in a process. -/
inductive Event where
  /-- A store is made on another host. -/
  | start (host : Host) (config : Config) (words : List UInt32)
  /-- An operation is performed in a session. -/
  | act (i : Nat) (a : Action)

/-- A process that has no store yet. -/
def new : Process := ⟨[], 1⟩

/-- **One step of a process.** -/
def step (p : Process) : Event → Process
  | .start host config words =>
    { p with sessions := p.sessions ++ [(Session.start host config words).numberFrom p.generation] }
  | .act i a =>
    match p.sessions[i]? with
    | some x =>
      let x' := ((x.numberFrom p.generation).step a).1
      ⟨p.sessions.set i x', x'.database.generation⟩
    | none => p

/-- The process after what happened. -/
def run (events : List Event) : Process := events.foldl step new

/-- The data of a collection of one of the sessions. -/
def entries (p : Process) (i : Nat) (r : RootId) : Entries :=
  (p.sessions[i]?).elim [] fun x => x.database.entries r

variable {p : Process} {event : Event} {events : List Event} {x x' : Session} {i j : Nat}
  {r r' : RootId} {id id' : String} {e e' : Entry}

theorem run_append_singleton (events : List Event) (event : Event) :
    run (events ++ [event]) = (run events).step event := by
  rw [run, List.foldl_append]
  rfl

/-- **A process with one session is the session.** -/
theorem run_single (host : Host) (config : Config) (words : List UInt32) (actions : List Action) :
    run (.start host config words :: actions.map (.act 0)) =
      ⟨[((Session.start host config words).run actions).1],
        ((Session.start host config words).run actions).1.database.generation⟩ := by
  have hactions (x : Session) : (actions.map (.act 0)).foldl step ⟨[x], x.database.generation⟩ =
      ⟨[(x.run actions).1], (x.run actions).1.database.generation⟩ := by
    induction actions generalizing x with
    | nil => rfl
    | cons a rest ih => exact ih (x.step a).1
  exact hactions (Session.start host config words)

/-! ## One step -/

/-- **Where a session comes from** after a step: it was there and is as it was,
it was started, or it performed the operation. -/
theorem session_step (h : (p.step event).sessions[j]? = some x') :
    p.sessions[j]? = some x' ∨
      (∃ host config words, x' = (Session.start host config words).numberFrom p.generation ∧
        (p.step event).generation = p.generation) ∨
      ∃ a x, event = .act j a ∧ p.sessions[j]? = some x ∧
        x' = ((x.numberFrom p.generation).step a).1 ∧
        (p.step event).generation = x'.database.generation := by
  cases event with
  | start host config words =>
    simp only [step] at h
    rcases Nat.lt_or_ge j p.sessions.length with hj | hj
    · rw [List.getElem?_append_left hj] at h
      exact .inl h
    · rw [List.getElem?_append_right hj, List.getElem?_singleton] at h
      split at h
      · exact .inr (.inl ⟨host, config, words, (Option.some.inj h).symm, rfl⟩)
      · cases h
  | act i a =>
    cases hx : p.sessions[i]? with
    | none =>
      simp only [step, hx] at h
      exact .inl h
    | some x =>
      simp only [step, hx] at h ⊢
      rw [List.getElem?_set] at h
      split at h
      · next hij =>
        subst hij
        rw [if_pos (List.getElem?_eq_some_iff.1 hx).1] at h
        obtain rfl := Option.some.inj h
        exact .inr (.inr ⟨a, x, rfl, hx, rfl, rfl⟩)
      · exact .inl h

theorem mem_entries_iff : (id, e) ∈ p.entries i r ↔
    ∃ x, p.sessions[i]? = some x ∧ (id, e) ∈ x.database.entries r := by
  unfold entries
  cases p.sessions[i]? with
  | none => simp
  | some x => simp

/-! ## The invariant -/

/-- **The invariant of a process.** -/
structure Sound (p : Process) : Prop where
  session : ∀ (i : Nat) (x : Session), p.sessions[i]? = some x → x.Sound
  positive : 0 < p.generation
  generation_le : ∀ (i : Nat) (x : Session), p.sessions[i]? = some x →
    x.database.generation ≤ p.generation
  apart : ∀ i r id e j r' id' e', (id, e) ∈ p.entries i r → (id', e') ∈ p.entries j r' →
    e.generation = e'.generation → i = j ∧ r = r' ∧ id = id'

theorem sound_new : new.Sound where
  session i x h := by cases h
  positive := Nat.one_pos
  generation_le i x h := by cases h
  apart i r id e j r' id' e' h := by cases h

/-- The session that performs an operation is sound, and no two of its
entries have the same generation. -/
theorem Sound.act (hp : p.Sound) (hx : p.sessions[i]? = some x) :
    (x.numberFrom p.generation).Sound ∧ (x.numberFrom p.generation).database.Numbered := by
  refine ⟨(hp.session i x hx).numberFrom (hp.generation_le i x hx), ?_⟩
  intro r id e r' id' e' he he' heq
  exact (hp.apart i r id e i r' id' e' (mem_entries_iff.2 ⟨x, hx, he⟩)
    (mem_entries_iff.2 ⟨x, hx, he'⟩) heq).2

theorem Sound.lt_generation (hp : p.Sound) (he : (id, e) ∈ p.entries i r) :
    e.generation < p.generation := by
  obtain ⟨x, hx, he⟩ := mem_entries_iff.1 he
  exact (hp.act hx).1.database.lt_generation r id e he

/-- The supply only goes up. -/
theorem Sound.generation_step (hp : p.Sound) (event : Event) :
    p.generation ≤ (p.step event).generation := by
  cases event with
  | start host config words => exact Nat.le_refl _
  | act i a =>
    cases hx : p.sessions[i]? with
    | none => simp [step, hx]
    | some x =>
      simp only [step, hx]
      exact (Session.evolves_step (hp.act hx).1 a).generation

/-- **Where an entry comes from** after a step: it was there, or it is of the
session that performed the operation. -/
theorem mem_entries_step (he : (id, e) ∈ (p.step event).entries j r) :
    (id, e) ∈ p.entries j r ∨ ∃ a x, event = .act j a ∧ p.sessions[j]? = some x ∧
      (id, e) ∈ ((x.numberFrom p.generation).step a).1.database.entries r := by
  obtain ⟨x', hx', he⟩ := mem_entries_iff.1 he
  rcases session_step hx' with hold | ⟨host, config, words, rfl, -⟩ | ⟨a, x, hevent, hx, rfl, -⟩
  · exact .inl (mem_entries_iff.2 ⟨x', hold, he⟩)
  · cases he
  · exact .inr ⟨a, x, hevent, hx, he⟩

/-- **An entry was there under its generation, or its generation is new.** -/
theorem Sound.origin_step (hp : p.Sound) (he : (id, e) ∈ (p.step event).entries j r) :
    (∃ e₀, (id, e₀) ∈ p.entries j r ∧ e₀.generation = e.generation) ∨
      p.generation ≤ e.generation := by
  rcases mem_entries_step he with hold | ⟨a, x, rfl, hx, he⟩
  · exact .inl ⟨e, hold, rfl⟩
  · obtain ⟨kept, new, heq, hkept, hnew⟩ := (Session.evolves_step (hp.act hx).1 a).stamps r
    have hstamp := Entries.mem_stamps_iff.2 ⟨e, he, rfl⟩
    rw [heq] at hstamp
    -- its stamp is one that was kept, or a new one
    rcases List.mem_append.1 hstamp with hstamp | hstamp
    · obtain ⟨e₀, he₀, hgeneration⟩ := Entries.mem_stamps_iff.1 (hkept.subset hstamp)
      exact .inl ⟨e₀, mem_entries_iff.2 ⟨x, hx, he₀⟩, hgeneration⟩
    · exact .inr (hnew _ hstamp)

/-- **A step keeps the invariant of a process.** -/
theorem Sound.step (hp : p.Sound) (event : Event) : (p.step event).Sound where
  session j x' h := by
    rcases session_step h with hold | ⟨host, config, words, rfl, -⟩ | ⟨a, x, -, hx, rfl, -⟩
    · exact hp.session j x' hold
    · exact (Session.sound_start host config words).numberFrom hp.positive
    · exact (hp.act hx).1.step a
  positive := Nat.lt_of_lt_of_le hp.positive (hp.generation_step event)
  generation_le j x' h := by
    rcases session_step h with hold | ⟨host, config, words, rfl, heq⟩ | ⟨a, x, -, hx, rfl, heq⟩
    · exact Nat.le_trans (hp.generation_le j x' hold) (hp.generation_step event)
    · exact Nat.le_of_eq heq.symm
    · exact Nat.le_of_eq heq.symm
  apart i r id e j r' id' e' he he' heq := by
    rcases mem_entries_step he with hold | ⟨a, x, rfl, hx, hmade⟩
    · rcases hp.origin_step he' with ⟨e₀, hold', hgeneration⟩ | hnew
      · exact hp.apart i r id e j r' id' e₀ hold hold' (heq.trans hgeneration.symm)
      · have hlt := hp.lt_generation hold
        omega
    · rcases mem_entries_step he' with hold' | ⟨a', x', hevent, hx', hmade'⟩
      · rcases hp.origin_step he with ⟨e₀, hold, hgeneration⟩ | hnew
        · exact hp.apart i r id e₀ j r' id' e' hold hold' (hgeneration.trans heq)
        · have hlt := hp.lt_generation hold'
          omega
      · -- both are of the session that performed the operation, which numbers its own apart
        cases hevent
        obtain rfl : x = x' := Option.some.inj (hx.symm.trans hx')
        obtain ⟨hsound, hnumbered⟩ := hp.act hx
        exact ⟨rfl, Session.numbered_step hsound hnumbered a r id e r' id' e' hmade hmade' heq⟩

theorem sound_run (events : List Event) : (run events).Sound := by
  induction events using List.reverseRecOn with
  | nil => exact sound_new
  | append_singleton events event ih =>
    rw [run_append_singleton]
    exact ih.step event

/-! ## All times -/

/-- An entry was there under its generation, or its generation is of a later
time. -/
theorem Sound.origin_foldl (hp : p.Sound) (later : List Event)
    (he : (id, e) ∈ (later.foldl Process.step p).entries j r) :
    (∃ e₀, (id, e₀) ∈ p.entries j r ∧ e₀.generation = e.generation) ∨
      p.generation ≤ e.generation := by
  induction later generalizing p with
  | nil => exact .inl ⟨e, he, rfl⟩
  | cons event later ih =>
    rcases ih (hp.step event) he with ⟨e₁, he₁, hgeneration⟩ | hnew
    · rw [← hgeneration]
      exact hp.origin_step he₁
    · exact .inr (Nat.le_trans (hp.generation_step event) hnew)

/-- A generation was given to an entry that was stored under an id. -/
def Issued (events : List Event) (i : Nat) (r : RootId) (id : String) (generation : Nat) : Prop :=
  ∃ earlier e, earlier <+: events ∧ (id, e) ∈ (run earlier).entries i r ∧
    e.generation = generation

variable {generation : Nat} {v : View}

theorem Issued.mono {events' : List Event} (h : Issued events i r id generation)
    (hbefore : events <+: events') : Issued events' i r id generation := by
  obtain ⟨earlier, e, hearlier, he⟩ := h
  exact ⟨earlier, e, hearlier.trans hbefore, he⟩

/-- Of two times, entries of one generation are one entry. -/
theorem apart_of_earlier {earlier later : List Event} (hbefore : earlier <+: later)
    (he : (id, e) ∈ (run earlier).entries i r) (he' : (id', e') ∈ (run later).entries j r')
    (heq : e.generation = e'.generation) : i = j ∧ r = r' ∧ id = id' := by
  obtain ⟨between, rfl⟩ := hbefore
  have hsound := sound_run earlier
  rw [run, List.foldl_append] at he'
  rcases hsound.origin_foldl between he' with ⟨e₀, he₀, hgeneration⟩ | hnew
  · exact hsound.apart i r id e j r' id' e₀ he he₀ (heq.trans hgeneration.symm)
  · have hlt := hsound.lt_generation he
    omega

/-- **A generation is given once**, of all times. -/
theorem issued_unique (h : Issued events i r id generation)
    (h' : Issued events j r' id' generation) : i = j ∧ r = r' ∧ id = id' := by
  obtain ⟨earlier, e, hearlier, he, hgeneration⟩ := h
  obtain ⟨earlier', e', hearlier', he', hgeneration'⟩ := h'
  rcases List.prefix_or_prefix_of_prefix hearlier hearlier' with hbefore | hbefore
  · exact apart_of_earlier hbefore he he' (hgeneration.trans hgeneration'.symm)
  · obtain ⟨hi, hr, hid⟩ :=
      apart_of_earlier hbefore he' he (hgeneration'.trans hgeneration.symm)
    exact ⟨hi.symm, hr.symm, hid.symm⟩

/-! ## What views and handles have -/

/-- The generations that the views and handles of a session have, each for an
id, were given to entries under the id. -/
structure HoldsIssued (events : List Event) (i : Nat) (x : Session) : Prop where
  scope : ∀ name v scope id generation, x.views.get? name = some v → v.scope = some scope →
    (id, generation) ∈ scope → Issued events i v.root id generation
  pin : ∀ name h generation, x.handles.get? name = some h → h.pin = .generation generation →
    Issued events i h.root h.id generation

theorem HoldsIssued.mono {events' : List Event} (h : HoldsIssued events i x)
    (hbefore : events <+: events') : HoldsIssued events' i x where
  scope name v scope id generation hv hscope hmem :=
    (h.scope name v scope id generation hv hscope hmem).mono hbefore
  pin name d generation hd hpin := (h.pin name d generation hd hpin).mono hbefore

/-- A filter selects what is stored. -/
theorem issued_filter (hx : x.Sound) {name : String} {scope : Bindings Nat}
    (hstored : ∀ r id e, (id, e) ∈ x.database.entries r → Issued events i r id e.generation)
    (hv : x.views.get? name = some v) (f : Filter)
    (hscope : (v.filter x.database f).scope = some scope) (hmem : (id, generation) ∈ scope) :
    Issued events i v.root id generation := by
  obtain rfl := Option.some.inj hscope
  obtain ⟨⟨id', e⟩, he, heq⟩ := List.mem_map.1 hmem
  cases heq
  exact hstored v.root id e ((hx.mem_visible_iff hv).1 (List.mem_filter.1 he).1).1

/-- A handle is pinned to what the scope of its view has for its id. -/
theorem mem_scope_of_pin (hpin : (v.handle id).pin = .generation generation) :
    ∃ scope, v.scope = some scope ∧ (id, generation) ∈ scope := by
  unfold View.handle at hpin
  cases hscope : v.scope with
  | none => simp [hscope] at hpin
  | some scope =>
    cases hget : scope.get? id with
    | none => simp [hscope, hget] at hpin
    | some n =>
      simp only [hscope, hget, Pin.generation.injEq] at hpin
      exact ⟨scope, rfl, Bindings.mem_of_get? (hpin ▸ hget)⟩

/-- **A step of a session** gives views and handles no other generations than
they had or its entries have. -/
theorem HoldsIssued.step (h : HoldsIssued events i x) (hx : x.Sound)
    (hstored : ∀ r id e, (id, e) ∈ x.database.entries r → Issued events i r id e.generation)
    (a : Action) : HoldsIssued events i (x.step a).1 where
  scope name v scope id generation hv hscope hmem := by
    cases Session.arises_step hx hv with
    | kept hold => exact h.scope _ v scope id generation hold hscope hmem
    | whole name hs hr => cases hscope
    | @options name w hold options => exact h.scope name w scope id generation hold hscope hmem
    | @filter name w hold f =>
      exact issued_filter (v := w) hx hstored hold f hscope hmem
  pin name d generation hd hpin := by
    rcases Session.handle_step hx hd with hold | ⟨view, v, id, hv, rfl⟩
    · exact h.pin name d generation hold hpin
    · obtain ⟨scope, hscope, hmem⟩ := mem_scope_of_pin hpin
      exact h.scope view v scope id generation hv hscope hmem

/-- **In every session of a process**, views and handles have generations that
were given to entries under the ids they have them for. -/
theorem holdsIssued_run (events : List Event) (hx : (run events).sessions[i]? = some x) :
    HoldsIssued events i x := by
  induction events using List.reverseRecOn generalizing x with
  | nil => cases hx
  | append_singleton events event ih =>
    have hbefore : events <+: events ++ [event] := List.prefix_append _ _
    rw [run_append_singleton] at hx
    rcases session_step hx with hold | ⟨host, config, words, rfl, -⟩ | ⟨a, y, -, hy, rfl, -⟩
    · exact (ih hold).mono hbefore
    · exact
        { scope := fun _ _ _ _ _ hv => by cases hv
          pin := fun _ _ _ hd => by cases hd }
    · have hheld : HoldsIssued events i (y.numberFrom (run events).generation) :=
        ⟨(ih hy).scope, (ih hy).pin⟩
      have hstored (r : RootId) (id : String) (e : Entry) (he : (id, e) ∈ y.database.entries r) :
          Issued events i r id e.generation :=
        ⟨events, e, List.prefix_refl _, mem_entries_iff.2 ⟨y, hy, he⟩, rfl⟩
      exact (hheld.step ((sound_run events).act hy).1 hstored a).mono hbefore

/-! ## Updates and removals -/

/-- The data after an operation: that of its session is what the session makes
of it, and all other is as it was. -/
theorem entries_act (hx : p.sessions[i]? = some x) (a : Action) (j : Nat) (r : RootId) :
    (p.step (.act i a)).entries j r =
      if i = j then ((x.numberFrom p.generation).step a).1.database.entries r
      else p.entries j r := by
  simp only [step, hx, entries, List.getElem?_set]
  split
  · next hij => rw [if_pos (List.getElem?_eq_some_iff.1 hx).1, Option.elim_some]
  · rfl

theorem entries_of_getElem? (hx : p.sessions[i]? = some x) (r : RootId) :
    p.entries i r = x.database.entries r := by
  rw [entries, hx, Option.elim_some]

/-- **An update leaves ids, generations and order as they are**, of every
collection of the process. -/
theorem stamps_act_of_updates (hp : p.Sound) {a : Action} (ha : Session.Updates a) (i j : Nat)
    (r : RootId) : ((p.step (.act i a)).entries j r).stamps = (p.entries j r).stamps := by
  cases hx : p.sessions[i]? with
  | none => simp only [step, hx]
  | some x =>
    rw [entries_act hx]
    split
    · next hij =>
      subst hij
      rw [Session.stamps_step_of_updates (hp.act hx).1 ha, entries_of_getElem? hx]
      rfl
    · rfl

/-- **A removal leaves a part of every collection** of the process, in its
order. -/
theorem sublist_act_of_discards (hp : p.Sound) {a : Action} (ha : Session.Discards a) (i j : Nat)
    (r : RootId) : List.Sublist ((p.step (.act i a)).entries j r) (p.entries j r) := by
  cases hx : p.sessions[i]? with
  | none => simp only [step, hx, List.Sublist.refl]
  | some x =>
    rw [entries_act hx]
    split
    · next hij =>
      subst hij
      rw [entries_of_getElem? hx]
      exact Session.sublist_step_of_discards (hp.act hx).1 ha r
    · exact List.Sublist.refl _

/-- **Entries keep their identity.** Whatever happened in a process, the ids
of each collection are distinct and not empty; the generations of all entries,
of all collections of all its stores, are distinct and before the next one;
an update leaves the ids, the generations and the order of all collections as
they are, and a removal leaves a part of each, in its order. What the scope of
a view or the pin of a handle has for an id was given to an entry that was
stored in that collection under the id, and a generation is given to one id
of one collection only, of all times. -/
theorem entries_keep_identity (events : List Event) :
    let p := run events
    (∀ i r, Bindings.Distinct (p.entries i r)) ∧
    (∀ i r id e, (id, e) ∈ p.entries i r → id ≠ "" ∧ e.generation < p.generation) ∧
    (∀ i r id e j r' id' e', (id, e) ∈ p.entries i r → (id', e') ∈ p.entries j r' →
      e.generation = e'.generation → i = j ∧ r = r' ∧ id = id') ∧
    (∀ i a, Session.Updates a → ∀ j r,
      ((p.step (.act i a)).entries j r).stamps = (p.entries j r).stamps) ∧
    (∀ i a, Session.Discards a → ∀ j r,
      List.Sublist ((p.step (.act i a)).entries j r) (p.entries j r)) ∧
    (∀ i x, p.sessions[i]? = some x → HoldsIssued events i x) ∧
    ∀ i r id j r' id' generation, Issued events i r id generation →
      Issued events j r' id' generation → i = j ∧ r = r' ∧ id = id' := by
  intro p
  have hp : p.Sound := sound_run events
  refine ⟨fun i r => ?_, fun i r id e he => ⟨?_, hp.lt_generation he⟩, hp.apart,
    fun i a ha j r => stamps_act_of_updates hp ha i j r,
    fun i a ha j r => sublist_act_of_discards hp ha i j r,
    fun i x hx => holdsIssued_run events hx,
    fun i r id j r' id' generation h h' => issued_unique h h'⟩
  · cases hx : p.sessions[i]? with
    | none =>
      rw [entries, hx]
      exact List.nodup_nil
    | some x =>
      rw [entries_of_getElem? hx]
      exact (hp.session i x hx).database.distinct r
  · obtain ⟨x, hx, he⟩ := mem_entries_iff.1 he
    exact (hp.session i x hx).database.id_ne r id e he

/-- What happens in a process that stores a document under one id on each of
two hosts, and filters the second. -/
def twoHosts : List Event :=
  [.start (.memory (.new none)) .manual [], .start (.memory (.new none)) .manual [],
    .act 0 (.onStore .init), .act 0 (.onStore (.createCollection "t" "c")),
    .act 1 (.onStore .init), .act 1 (.onStore (.createCollection "t" "c")),
    .act 0 (.onView "c" (.add (.object [("_id", .string "a")]))),
    .act 1 (.onView "c" (.add (.object [("_id", .string "a")]))),
    .act 1 (.onView "c" (.filter .empty "f"))]

/-- The two documents have generations of one supply. -/
theorem entries_keep_identity_two_hosts :
    ((run twoHosts).entries 0 0).stamps = [("a", 1)] ∧
      ((run twoHosts).entries 1 0).stamps = [("a", 2)] ∧
      (run twoHosts).generation = 3 ∧ Issued twoHosts 1 0 "a" 2 ∧
      ∀ i r id, Issued twoHosts i r id 2 → i = 1 ∧ r = 0 ∧ id = "a" := by
  have hstored : ("a", 2) ∈ ((run twoHosts).entries 1 0).stamps := by decide
  obtain ⟨e, he, hgeneration⟩ := Entries.mem_stamps_iff.1 hstored
  have hissued : Issued twoHosts 1 0 "a" 2 := ⟨twoHosts, e, List.prefix_refl _, he, hgeneration⟩
  obtain ⟨-, -, -, -, -, -, hunique⟩ := entries_keep_identity twoHosts
  refine ⟨by decide, by decide, by decide, hissued, fun i r id h => ?_⟩
  exact hunique i r id 1 0 "a" 2 h hissued

end Process

end DocumentStore
