import DocumentStore.Config

/-!
# Workers — the loop behind a debounced store

A debounced store has a worker, which persists it some time after it was
mutated. The worker turns in a loop, and every signal it receives is one turn
(`Worker.receive`). A mutation arms it, if it is not armed yet: its deadline
is a delay later, and the mutations after it ride along. When the deadline
passes, the worker flushes the store and is not armed any more; when the store
is given up, which closes the worker's channel, it flushes the store and
exits. A deadline that no instant can represent makes it panic. A worker that
exited or panicked receives nothing.
-/

namespace DocumentStore

/-- A point in time, in nanoseconds. -/
abbrev Instant := Nat

/-- The instants that can be represented are before this one: their seconds have
63 bits. -/
def Instant.bound : Instant := 9223372036854775808 * 1000000000

/-- What a worker receives. -/
inductive Signal where
  /-- The store was mutated, at a time. -/
  | mutation (time : Instant)
  /-- The deadline passed. -/
  | timeout
  /-- The store was given up. -/
  | disconnect

/-- Where a worker is in its loop, or where it left it. -/
inductive Phase where
  /-- It waits for a mutation. -/
  | idle
  /-- It waits for its deadline. -/
  | armed (deadline : Instant)
  /-- It left the loop behind its last flush. -/
  | exited
  /-- It died of a deadline that cannot be represented. -/
  | panicked
  deriving DecidableEq

namespace Phase

/-- The deadline of a worker that is armed. -/
def deadline? : Phase → Option Instant
  | .armed deadline => some deadline
  | _ => none

/-- Whether the worker left its loop, in one way or the other. -/
def isGone : Phase → Bool
  | .exited => true
  | .panicked => true
  | _ => false

/-- Where a mutation leads a worker that waits for one. -/
def arm (delay : Delay) (time : Instant) : Phase :=
  if time + delay.toNanos < Instant.bound then .armed (time + delay.toNanos) else .panicked

/-- **One turn of the loop**: where a signal leads, and whether the store is
flushed on it. -/
def turn (delay : Delay) : Phase → Signal → Phase × Bool
  | .idle, .mutation time => (arm delay time, false)
  | .armed _, .timeout => (.idle, true)
  | .idle, .disconnect => (.exited, true)
  | .armed _, .disconnect => (.exited, true)
  | phase, _ => (phase, false)

end Phase

/-- The worker of a store. -/
structure Worker where
  delay : Delay
  phase : Phase

namespace Worker

/-- A worker at the start of its loop. -/
def start (delay : Delay) : Worker := ⟨delay, .idle⟩

/-- The worker after a signal, and whether it flushes its store. -/
def receive (w : Worker) (signal : Signal) : Worker × Bool :=
  let (phase, flushes) := w.phase.turn w.delay signal
  ({ w with phase }, flushes)

@[simp] theorem delay_receive (w : Worker) (signal : Signal) :
    (w.receive signal).1.delay = w.delay := rfl

end Worker

end DocumentStore
