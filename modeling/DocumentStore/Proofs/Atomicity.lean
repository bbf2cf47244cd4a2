import DocumentStore.Proofs.Procedure
import DocumentStore.Proofs.Release

/-!
# Atomicity — operations that fail leave no trace

An operation of a store, a view or a handle fails if it is refused, or if it
is to remove the document of a handle and there is none (`Action.Fails`).
Its procedure, which has one effect after the other in the session itself,
has had none of them by then (`perform_of_fails`). Nor is there anything to
give up behind it, since no store waits to persist that nothing holds
(`Released.release_eq`). So the session after a failure is the session
before it, whatever was done until then, and a run goes on as if the
operation had not been in it (`run_cons_of_fails`).
-/

namespace DocumentStore

/-- Whether an operation of a store, a view or a handle failed, by what it
answered. -/
def Action.Fails : Action → Except StoreError Reply → Prop
  | .onHandle _ .remove, .ok (.flag existed) => existed = false
  | _, .error _ => True
  | _, .ok _ => False

namespace Session

open Database Procedure

variable {x : Session} {a : Action} {p : Procedure Reply}

/-- What a procedure refuses, it refuses before its first effect. -/
theorem wholly_of_error {answer : Except StoreError (Reply × Session)} {e : StoreError}
    (h : (wholly x answer).1 = .error e) : (wholly x answer).2 = x := by
  cases answer with
  | ok done => cases h
  | error e => rfl

/-- **A procedure that fails has had no effect.** -/
theorem perform_of_fails (hp : x.procedure? a = some p) (hf : a.Fails (p.perform x).1) :
    (p.perform x).2 = x := by
  have herror {e : StoreError} (he : (p.perform x).1 = .error e) : (p.perform x).2 = x := by
    cases a with
    | onStore a =>
      obtain ⟨s, -, rfl⟩ := Option.map_eq_some_iff.1 hp
      rw [perform_onStore] at he ⊢
      exact wholly_of_error he
    | onView view a =>
      obtain ⟨v, -, rfl⟩ := Option.map_eq_some_iff.1 hp
      rw [perform_onView] at he ⊢
      exact wholly_of_error he
    | onHandle handle a =>
      obtain ⟨h, -, rfl⟩ := Option.map_eq_some_iff.1 hp
      rw [perform_onHandle] at he ⊢
      exact wholly_of_error he
    | _ => cases hp
  cases hanswer : (p.perform x).1 with
  | error e => exact herror hanswer
  | ok reply =>
    rw [hanswer] at hf
    -- only a removal through a handle fails with a reply, and then there was no document
    cases a with
    | onHandle handle a =>
      cases a with
      | remove =>
        obtain ⟨h, -, rfl⟩ := Option.map_eq_some_iff.1 hp
        rw [perform_onHandle] at hanswer ⊢
        by_cases hpresent : h.isPresent x.database = true
        · simp only [onHandle, Handle.remove, if_pos hpresent] at hanswer
          cases hanswer
          cases hf
        · simp only [onHandle, Handle.remove, if_neg hpresent]
          rfl
      | _ => cases hf
    | _ => cases hf

/-- **A step is what the procedure does**, whatever it answers, and then
gives up the stores that nothing holds. -/
theorem step_of_procedure? (hx : x.Released) (hp : x.procedure? a = some p) :
    x.step a = ((p.perform x).2.release, (p.perform x).1.mapError .store) := by
  have hconclude (answer : Except StoreError (Reply × Session)) : x.conclude answer =
      ((wholly x answer).2.release, (wholly x answer).1.mapError .store) := by
    cases answer with
    | ok done => rfl
    | error e => exact congrArg (·, _) hx.release_eq.symm
  cases a with
  | onStore a =>
    obtain ⟨s, hs, rfl⟩ := Option.map_eq_some_iff.1 hp
    simp only [step, hs, perform_onStore, hconclude]
  | onView view a =>
    obtain ⟨v, hv, rfl⟩ := Option.map_eq_some_iff.1 hp
    simp only [step, hv, perform_onView, hconclude]
  | onHandle handle a =>
    obtain ⟨h, hh, rfl⟩ := Option.map_eq_some_iff.1 hp
    simp only [step, hh, perform_onHandle, hconclude]
  | _ => cases hp

/-- A step that fails leaves the session as it was. -/
theorem step_of_fails (hx : x.Released) (hp : x.procedure? a = some p)
    (hf : a.Fails (p.perform x).1) : (x.step a).1 = x := by
  rw [step_of_procedure? hx hp, perform_of_fails hp hf]
  exact hx.release_eq

/-- **A run goes on as if what failed had not been in it.** -/
theorem run_cons_of_fails (hx : x.Released) (hp : x.procedure? a = some p)
    (hf : a.Fails (p.perform x).1) (rest : List Action) :
    x.run (a :: rest) = ((x.run rest).1, (p.perform x).1.mapError .store :: (x.run rest).2) := by
  have hanswer : (x.step a).2 = (p.perform x).1.mapError .store := by
    rw [step_of_procedure? hx hp]
  simp only [run]
  rw [step_of_fails hx hp hf, hanswer]

/-- **Failures leave no trace.** At every moment of a run, the procedure of an
operation does what the step does; if the operation fails, the procedure has
had no effect, the session is as it was, in all its stores, collections and
supplies and on its host, and every run goes on from there as it would have
without the operation. -/
theorem failure_leaves_no_trace (host : Host) (config : Config) (words : List UInt32)
    (actions : List Action) (t : Nat) (a : Action) (p : Procedure Reply)
    (hp : ((start host config words).moment actions t).procedure? a = some p) :
    let x := (start host config words).moment actions t
    x.step a = ((p.perform x).2.release, (p.perform x).1.mapError .store) ∧
    (a.Fails (p.perform x).1 → (p.perform x).2 = x ∧ (x.step a).1 = x ∧
      ∀ rest, x.run (a :: rest) =
        ((x.run rest).1, (p.perform x).1.mapError .store :: (x.run rest).2)) := by
  intro x
  have hx : x.Released :=
    (released_start host config words).moment (sound_start host config words) actions t
  refine ⟨step_of_procedure? hx hp, fun hf => ?_⟩
  exact ⟨perform_of_fails hp hf, step_of_fails hx hp hf, run_cons_of_fails hx hp hf⟩

/-- On a host that holds no snapshot at all a store is not initialized, and
once the host holds one it is, as if for the first time. -/
theorem failure_leaves_no_trace_initializing :
    let x := start (.memory (.new (some (.bool true)))) .immediate []
    x.procedure? (.onStore .init) = some (Procedure.onStore 0 .init) ∧
      (Action.onStore .init).Fails ((Procedure.onStore 0 .init).perform x).1 ∧
      (x.run [.onStore .init, .onHost (.persist (.object [])), .onStore .init]).2 =
        [.error (.store (.invalidSnapshot "boolean")), .ok .done, .ok .done] := by
  intro x
  have hp : x.procedure? (.onStore .init) = some (Procedure.onStore 0 .init) := rfl
  have hf : (Action.onStore .init).Fails ((Procedure.onStore 0 .init).perform x).1 := trivial
  obtain ⟨-, htrace⟩ :=
    failure_leaves_no_trace (.memory (.new (some (.bool true)))) .immediate [] [] 0
      (.onStore .init) (Procedure.onStore 0 .init) hp
  refine ⟨hp, hf, ?_⟩
  have hrun := (htrace hf).2.2 [.onHost (.persist (.object [])), .onStore .init]
  exact (congrArg Prod.snd hrun).trans rfl

end Session

end DocumentStore
