import DocumentStore.Proofs.Hosting
import DocumentStore.Proofs.Run

/-!
# Holding — the host has the last snapshot it accepted

However many stores offer their snapshots to one host, in whatever order
they are accepted and refused, the host holds the last one it accepted
(`Database.HoldsLatest`), as long as nothing else writes to it
(`Action.KeepsHost`). If something else did, this is so of the snapshots that
were offered since (`Database.HoldsSince`). Every operation keeps it, since only
a flush offers anything (`HoldsSince.flush`) and the rest leaves the log and the
host alone.
-/

namespace DocumentStore

/-- Nothing is written to the host past the stores. -/
def Action.KeepsHost : Action → Prop
  | .onHost (.persist _) => False
  | _ => True

namespace Database

variable {db db' : Database} {s : StoreId} {v : Value}

/-- **The host holds the last snapshot that it accepted.** -/
def HoldsLatest (db : Database) : Prop :=
  ∀ before o after, db.offers = before ++ o :: after → o.accepted = true →
    (∀ o' ∈ after, o'.accepted = false) → db.host.Holds o.snapshot

/-- **It holds the last of those that were offered since** so many were. -/
def HoldsSince (n : Nat) (db : Database) : Prop :=
  ∀ before o after, n ≤ before.length → db.offers = before ++ o :: after → o.accepted = true →
    (∀ o' ∈ after, o'.accepted = false) → db.host.Holds o.snapshot

variable {n : Nat}

theorem holdsLatest_iff : HoldsLatest db ↔ HoldsSince 0 db :=
  ⟨fun h before o after _ => h before o after,
    fun h before o after => h before o after (Nat.zero_le _)⟩

/-- Since what was offered last nothing was. -/
theorem holdsSince_length (db : Database) : HoldsSince db.offers.length db := by
  intro before o after hn heq
  have hlength := congrArg List.length heq
  rw [List.length_append, List.length_cons] at hlength
  omega

theorem HoldsSince.congr (h : HoldsSince n db) (hoffers : db'.offers = db.offers)
    (hholds : ∀ v, db.host.Holds v → db'.host.Holds v) : HoldsSince n db' :=
  fun before o after hn heq hacc hafter =>
    hholds _ (h before o after hn (hoffers ▸ heq) hacc hafter)

theorem offers_persist :
    (db.persist s v).offers = db.offers ++ [⟨s, v, (db.host.persist v).2⟩] := by
  unfold persist
  dsimp only
  split <;> rfl

theorem host_persist : (db.persist s v).host = (db.host.persist v).1 := by
  unfold persist
  dsimp only
  split <;> rfl

/-- Upkeep does to a host what offering it snapshots does. -/
theorem Upkept.host_induction {P : Host → Prop} (hpersist : ∀ h v, P h → P (h.persist v).1)
    (h : Upkept db db') (hdb : P db.host) : P db'.host := by
  refine h.induction (P := fun db => P db.host) hdb (fun db s hdb => ?_) (fun _ _ _ hdb => hdb)
    fun _ _ hdb => hdb
  unfold flush
  split
  · dsimp only
    split
    · rw [host_persist]
      exact hpersist _ _ hdb
    · exact hdb
  · exact hdb

/-- An offer is held if it is accepted, and what was held is if it is not. -/
theorem HoldsSince.persist (h : HoldsSince n db) : HoldsSince n (db.persist s v) := by
  intro before o after hn heq hacc hafter
  rw [offers_persist] at heq
  rw [host_persist]
  -- the last accepted offer is the new one, or one before it and the new one was refused
  rcases List.eq_nil_or_concat after with rfl | ⟨after, o', rfl⟩
  · obtain ⟨-, hlast⟩ := List.append_inj' heq rfl
    cases hlast
    exact Host.holds_persist hacc
  · rw [List.concat_eq_append, ← List.cons_append, ← List.append_assoc] at heq
    obtain ⟨hbefore, hlast⟩ := List.append_inj' heq rfl
    cases hlast
    have hheld := h before o after hn hbefore hacc fun o' ho' => hafter o' (by simp [ho'])
    exact hheld.persist (hafter ⟨s, v, (db.host.persist v).2⟩ (by simp))

theorem HoldsSince.flush (h : HoldsSince n db) (s : StoreId) : HoldsSince n (db.flush s).1 := by
  have hclear : HoldsSince n (db.modifyStore s fun store => { store with dirty := false }) :=
    h.congr rfl fun _ hv => hv
  unfold Database.flush
  split
  · dsimp only
    split
    · exact hclear.persist
    · exact hclear
  · exact h

/-- **Upkeep keeps what is held up to date.** -/
theorem HoldsSince.upkept (h : HoldsSince n db) (hf : Upkept db db') : HoldsSince n db' :=
  hf.induction h (fun _ s h => h.flush s) (fun _ _ _ h => h.congr rfl fun _ hv => hv)
    fun _ _ h => h.congr rfl fun _ hv => hv

/-- Initializing a store offers nothing, -/
theorem offers_init (h : db.init s = .ok db') : db'.offers = db.offers := by
  rcases init_ok h with ⟨-, rfl⟩ | ⟨-, collections, db₁, hl, -, rfl⟩
  · rfl
  · exact hl.offers

/-- and leaves the host as it is. -/
theorem host_init (h : db.init s = .ok db') : db'.host = db.host := by
  rcases init_ok h with ⟨-, rfl⟩ | ⟨-, collections, db₁, hl, -, rfl⟩
  · rfl
  · exact hl.host

end Database

namespace Session

open Database

variable {x : Session} {a : Action}

/-- What operations do before they persist leaves the log alone. -/
theorem offers_effect (x : Session) (a : Action) : (x.effect a).offers = x.database.offers := by
  rcases effect_cases x a with ⟨s, e, -, heq⟩ | ⟨-, heq | ⟨s, rfl, -, hinit⟩ | ⟨h, rfl, heq⟩⟩
  · rw [heq]
    cases e <;> rfl
  · rw [heq]
  · exact offers_init hinit
  · rw [heq]

/-- And so does it with what the host holds, if nothing is written past the
stores. -/
theorem holds_effect (ha : a.KeepsHost) {v : Value} (hv : x.database.host.Holds v) :
    (x.effect a).host.Holds v := by
  rcases effect_cases x a with ⟨s, e, -, heq⟩ | ⟨-, heq | ⟨s, rfl, -, hinit⟩ | ⟨h, rfl, heq⟩⟩
  · rw [heq]
    cases e <;> exact hv
  · rwa [heq]
  · rwa [host_init hinit]
  · rw [heq]
    cases h with
    | persist value => exact ha.elim
    | setFailing failing => exact hv.setFailing failing

/-- **A step keeps what is held up to date.** -/
theorem holdsSince_step {n : Nat} (hx : x.Sound) (h : HoldsSince n x.database)
    (ha : a.KeepsHost) : HoldsSince n (x.step a).1.database := by
  rcases database_step hx a with hf | ⟨config, db, rfl, hf, hinit⟩
  · have heffect : HoldsSince n (x.effect a) :=
      h.congr (offers_effect x a) fun v hv => holds_effect ha hv
    exact heffect.upkept hf
  · have hadded : HoldsSince n (db.addStore config).2 := (h.upkept hf).congr rfl fun _ hv => hv
    exact hadded.congr (offers_init hinit) fun v hv => by rwa [host_init hinit]

/-- Nothing is written to the host past the stores, from a moment of a run to
another. -/
def KeepsHostBetween (actions : List Action) (m t : Nat) : Prop :=
  ∀ k a, m ≤ k → k < t → actions[k]? = some a → a.KeepsHost

/-- **At every moment of a run the host holds the last snapshot it accepted
since an earlier moment**, if nothing else was written to it since. -/
theorem holdsSince_moment {actions : List Action} {m t n : Nat} (hx : x.Sound) (h : m ≤ t)
    (hm : HoldsSince n (x.moment actions m).database) (ha : KeepsHostBetween actions m t) :
    HoldsSince n (x.moment actions t).database :=
  moment_le_induction (P := fun y => HoldsSince n y.database) h hm fun k a hmk hkt hk hheld =>
    holdsSince_step (hx.moment actions k) hheld (ha k a hmk hkt hk)

/-- And the last it accepted at all, if nothing else was ever written to it. -/
theorem holdsLatest_moment (hx : x.Sound) (h : HoldsLatest x.database) {actions : List Action}
    (ha : ∀ a ∈ actions, a.KeepsHost) (t : Nat) : HoldsLatest (x.moment actions t).database :=
  holdsLatest_iff.2 <| holdsSince_moment (m := 0) hx (Nat.zero_le t) (holdsLatest_iff.1 h)
    fun _ a _ _ hk => ha a (List.mem_of_getElem? hk)

theorem holdsLatest_start (host : Host) (config : Config) (words : List UInt32) :
    HoldsLatest (start host config words).database := by
  rw [holdsLatest_iff]
  exact holdsSince_length (start host config words).database

/-- **What is true of a host whatever it is given stays true**, at every moment
of a run. -/
theorem host_induction {P : Host → Prop} (hpersist : ∀ h v, P h → P (h.persist v).1)
    (hfailing : ∀ h failing, P h → P (h.setFailing failing)) (hx : x.Sound)
    (h : P x.database.host) (actions : List Action) (t : Nat) :
    P (x.moment actions t).database.host := by
  have heffect (x : Session) (a : Action) (h : P x.database.host) : P (x.effect a).host := by
    rcases effect_cases x a with ⟨s, e, -, heq⟩ | ⟨-, heq | ⟨s, rfl, -, hinit⟩ | ⟨ha, rfl, heq⟩⟩
    · rw [heq]
      cases e <;> exact h
    · rwa [heq]
    · rwa [host_init hinit]
    · rw [heq]
      cases ha with
      | persist value => exact hpersist _ value h
      | setFailing failing => exact hfailing _ failing h
  have hstep (x : Session) (a : Action) (hx : x.Sound) (h : P x.database.host) :
      P (x.step a).1.database.host := by
    rcases database_step hx a with hf | ⟨config, db, rfl, hf, hinit⟩
    · exact hf.host_induction hpersist (heffect x a h)
    · have hupkept : P db.host := hf.host_induction hpersist h
      rw [host_init hinit]
      exact hupkept
  have hboth : (x.moment actions t).Sound ∧ P (x.moment actions t).database.host :=
    moment_induction (P := fun x => x.Sound ∧ P x.database.host) ⟨hx, h⟩
      (fun x a _ h => ⟨h.1.step a, hstep x a h.1 h.2⟩) t
  exact hboth.2

end Session

end DocumentStore
