import DocumentStore.Error

/-!
# Configuration

When the mutations of a store reach its host: after a delay that a burst
of mutations shares, within every mutating call, or only when asked. A
configuration has one written form (`Config.toValue`) and is read from
several (`Config.ofValue?`); nanoseconds past a second carry over into the
seconds, and are refused if those overflow.
-/

namespace DocumentStore

/-- A span of time: seconds of 64 bits and nanoseconds below one of them. -/
structure Delay where
  secs : Nat
  nanos : Nat
  secs_lt : secs < 18446744073709551616
  nanos_lt : nanos < 1000000000
  deriving DecidableEq, Repr

/-- When mutations reach the host. -/
inductive WriteBackMode where
  | debounced (delay : Delay)
  | immediate
  | manual
  deriving DecidableEq, Repr

/-- The configuration of a store. -/
structure Config where
  writeBack : WriteBackMode
  deriving DecidableEq, Repr

namespace Delay

/-- The span of seconds and any number of nanoseconds, if the seconds do
not overflow. -/
def ofParts? (secs nanos : Nat) : Option Delay :=
  if h : secs + nanos / 1000000000 < 18446744073709551616 then
    some ⟨secs + nanos / 1000000000, nanos % 1000000000, h, Nat.mod_lt _ (by decide)⟩
  else none

/-- A span of milliseconds. -/
def ofMillis? (millis : Nat) : Option Delay :=
  ofParts? (millis / 1000) (millis % 1000 * 1000000)

/-- The whole span in nanoseconds. -/
def toNanos (d : Delay) : Nat := 1000000000 * d.secs + d.nanos

/-- The written form of a span. -/
def toValue (d : Delay) : Value :=
  .object [("secs", .ofNat d.secs), ("nanos", .ofNat d.nanos)]

/-- A natural number below a bound. -/
def natBelow? (bound : Nat) : Value → Option Nat
  | .number (.integer n) => if 0 ≤ n.val ∧ n.val < bound then some n.val.toNat else none
  | _ => none

/-- The span of the values of its two parts. -/
def ofValues? (secs nanos : Value) : Option Delay := do
  ofParts? (← natBelow? 18446744073709551616 secs) (← natBelow? 4294967296 nanos)

/-- Reads a span from its two parts, by name and no others beside them, or
by position. -/
def ofValue? : Value → Option Delay
  | .object members => do
    if !(Bindings.keys members).all (fun k => k == "secs" || k == "nanos") then none
    ofValues? (← Bindings.get? members "secs") (← Bindings.get? members "nanos")
  | .array [secs, nanos] => ofValues? secs nanos
  | _ => none

/-- A number with a fraction of `places` digits, without trailing zeros. -/
def decimalText (whole fraction places : Nat) : String :=
  let digits := toString fraction
  let padded := List.replicate (places - digits.length) '0' ++ digits.toList
  let shown := (padded.reverse.dropWhile (· == '0')).reverse
  toString whole ++ (if shown.isEmpty then "" else String.ofList ('.' :: shown))

/-- The diagnostic text of a span, in the largest unit that it fills. -/
def inspect (d : Delay) : String :=
  if 0 < d.secs then decimalText d.secs d.nanos 9 ++ "s"
  else if 1000000 ≤ d.nanos then decimalText (d.nanos / 1000000) (d.nanos % 1000000) 6 ++ "ms"
  else if 1000 ≤ d.nanos then decimalText (d.nanos / 1000) (d.nanos % 1000) 3 ++ "µs"
  else toString d.nanos ++ "ns"

end Delay

namespace WriteBackMode

/-- The delay, in the mode that has one. -/
def delay? : WriteBackMode → Option Delay
  | .debounced delay => some delay
  | _ => none

/-- Whether the mode is the debounced one. -/
def isDebounced (m : WriteBackMode) : Bool := m.delay?.isSome

/-- The written form of a mode. -/
def toValue : WriteBackMode → Value
  | .debounced delay => .object [("Debounced", .object [("delay", delay.toValue)])]
  | .immediate => .string "Immediate"
  | .manual => .string "Manual"

/-- Reads a mode: by its name alone, or as the one member of an object. -/
def ofValue? : Value → Option WriteBackMode
  | .string "Immediate" => some .immediate
  | .string "Manual" => some .manual
  | .object [("Immediate", .null)] => some .immediate
  | .object [("Manual", .null)] => some .manual
  | .object [("Debounced", .object members)] => do
    return .debounced (← Delay.ofValue? (← Bindings.get? members "delay"))
  | _ => none

/-- The diagnostic text of a mode. -/
def inspect : WriteBackMode → String
  | .debounced delay => "Debounced \x7b delay: " ++ delay.inspect ++ " \x7d"
  | .immediate => "Immediate"
  | .manual => "Manual"

end WriteBackMode

namespace Config

/-- Debounced by a fifth of a second. -/
def default : Config := ⟨.debounced ⟨0, 200000000, by decide, by decide⟩⟩

/-- Persists within every mutating call. -/
def immediate : Config := ⟨.immediate⟩

/-- Persists only when asked. -/
def manual : Config := ⟨.manual⟩

/-- The written form. -/
def toValue (c : Config) : Value := .object [("write_back", c.writeBack.toValue)]

/-- Reads a configuration: its one member by name, others not counting, or
by position. -/
def ofValue? : Value → Except StoreError Config
  | .object members => read ((Bindings.get? members "write_back").bind WriteBackMode.ofValue?)
  | .array [mode] => read (WriteBackMode.ofValue? mode)
  | _ => .error .serialization
where
  /-- The configuration of a mode, if one was read. -/
  read : Option WriteBackMode → Except StoreError Config
    | some mode => .ok ⟨mode⟩
    | none => .error .serialization

end Config

end DocumentStore
