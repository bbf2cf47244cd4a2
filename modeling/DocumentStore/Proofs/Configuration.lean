import DocumentStore.Config
import DocumentStore.Proofs.Roundtrip

/-!
# Configuration — what a value says, and what is written of it

A value that is read as a configuration denotes a schedule (`Config.Denotes`): a mode
by its name, or a delay of so many nanoseconds, however they are divided into seconds
and the rest. A schedule is that of a mode just if its delay fits
(`WriteBackMode.exists_schedule_iff`). So the spellings are told apart once: what is
read is the configuration of the schedule that is denoted, and a delay that does not
fit is refused (`Config.ofValue?_eq_ok_iff`). The written form is one of the spellings,
and its text is read back as that of any legible value is.
-/

namespace DocumentStore

/-! ## Schedules -/

/-- **A schedule** is a mode whose delay may be of any length, in nanoseconds. -/
inductive Schedule where
  | debounced (nanos : Nat)
  | immediate
  | manual

namespace Schedule

/-- The delay, if there is one, is of no more seconds than 64 bits count. -/
def Fits : Schedule → Prop
  | debounced nanos => nanos < 18446744073709551616 * 1000000000
  | immediate => True
  | manual => True

/-- The name of a schedule that has no delay. -/
def name? : Schedule → Option String
  | debounced _ => none
  | immediate => some "Immediate"
  | manual => some "Manual"

theorem eq_of_name? {s s' : Schedule} {name : String} (h : s.name? = some name)
    (h' : s'.name? = some name) : s = s' := by
  cases s with
  | debounced _ => cases h
  | immediate =>
    cases h
    cases s' with
    | immediate => rfl
    | _ => simp [name?] at h'
  | manual =>
    cases h
    cases s' with
    | manual => rfl
    | _ => simp [name?] at h'

end Schedule

namespace Delay

variable {d d' : Delay} {secs nanos n : Nat}

theorem toNanos_lt (d : Delay) : d.toNanos < 18446744073709551616 * 1000000000 := by
  have := d.secs_lt
  have := d.nanos_lt
  unfold toNanos
  omega

theorem toNanos_injective (h : toNanos d = toNanos d') : d = d' := by
  obtain ⟨secs, nanos, hsecs, hnanos⟩ := d
  obtain ⟨secs', nanos', hsecs', hnanos'⟩ := d'
  simp only [toNanos] at h
  obtain ⟨rfl, rfl⟩ : secs = secs' ∧ nanos = nanos' := by omega
  rfl

/-- **Nothing is lost where nanoseconds carry over**, and nothing is made of a span
whose seconds overflow. -/
theorem ofParts?_eq_some_iff :
    ofParts? secs nanos = some d ↔ d.toNanos = secs * 1000000000 + nanos := by
  have hlt := d.toNanos_lt
  unfold ofParts?
  constructor
  · intro h
    obtain ⟨hfits, heq⟩ := Option.dite_none_right_eq_some.1 h
    cases heq
    simp only [toNanos]
    omega
  · intro h
    have hfits : secs + nanos / 1000000000 < 18446744073709551616 := by omega
    rw [dif_pos hfits, Option.some.injEq]
    refine toNanos_injective (Eq.trans ?_ h.symm)
    simp only [toNanos]
    omega

theorem exists_toNanos_iff :
    (∃ d, toNanos d = n) ↔ n < 18446744073709551616 * 1000000000 := by
  constructor
  · rintro ⟨d, rfl⟩
    exact d.toNanos_lt
  · intro hlt
    exact ⟨⟨n / 1000000000, n % 1000000000, by omega, by omega⟩, by simp only [toNanos]; omega⟩

end Delay

namespace WriteBackMode

variable {s : Schedule}

/-- The schedule of a mode. -/
def schedule : WriteBackMode → Schedule
  | debounced delay => .debounced delay.toNanos
  | immediate => .immediate
  | manual => .manual

/-- **A schedule is that of a mode** just if it fits. -/
theorem exists_schedule_iff : (∃ m, schedule m = s) ↔ s.Fits := by
  constructor
  · rintro ⟨m, rfl⟩
    cases m with
    | debounced delay => exact delay.toNanos_lt
    | immediate => trivial
    | manual => trivial
  · intro hfits
    cases s with
    | debounced nanos =>
      obtain ⟨delay, rfl⟩ := Delay.exists_toNanos_iff.2 hfits
      exact ⟨debounced delay, rfl⟩
    | immediate => exact ⟨immediate, rfl⟩
    | manual => exact ⟨manual, rfl⟩

end WriteBackMode

/-! ## Spellings -/

/-- The seconds and the nanoseconds of a span of so many nanoseconds: natural numbers
of 64 and of 32 bits, the second of which may be of more than a second. -/
def Delay.Parts (u w : Value) (n : Nat) : Prop :=
  ∃ secs nanos, secs < 18446744073709551616 ∧ nanos < 4294967296 ∧
    u = .ofNat secs ∧ w = .ofNat nanos ∧ n = secs * 1000000000 + nanos

/-- **A value denotes a span** of so many nanoseconds by its two parts, under their
names and with nothing else beside them, or in their places. -/
inductive Delay.Denotes : Value → Nat → Prop
  | named {members : Bindings Value} {u w : Value} {n : Nat}
      (hkeys : ∀ k ∈ Bindings.keys members, k = "secs" ∨ k = "nanos")
      (hsecs : Bindings.get? members "secs" = some u)
      (hnanos : Bindings.get? members "nanos" = some w) (hparts : Parts u w n) :
      Denotes (.object members) n
  | placed {u w : Value} {n : Nat} (hparts : Parts u w n) : Denotes (.array [u, w]) n

/-- **A value denotes a mode** by the name of one without a delay, alone or over null,
or by the delay of the other among the members under its name. -/
inductive WriteBackMode.Denotes : Value → Schedule → Prop
  | name {name : String} {s : Schedule} (hname : s.name? = some name) : Denotes (.string name) s
  | overNull {name : String} {s : Schedule} (hname : s.name? = some name) :
      Denotes (.object [(name, .null)]) s
  | debounced {members : Bindings Value} {delay : Value} {n : Nat}
      (hdelay : Bindings.get? members "delay" = some delay) (h : Delay.Denotes delay n) :
      Denotes (.object [("Debounced", .object members)]) (.debounced n)

/-- **A value denotes a configuration** by its mode, under its name among whatever
members, or alone in an array. -/
inductive Config.Denotes : Value → Schedule → Prop
  | named {members : Bindings Value} {mode : Value} {s : Schedule}
      (hmode : Bindings.get? members "write_back" = some mode)
      (h : WriteBackMode.Denotes mode s) : Denotes (.object members) s
  | placed {mode : Value} {s : Schedule} (h : WriteBackMode.Denotes mode s) :
      Denotes (.array [mode]) s

/-! ## What is read -/

namespace Value

theorem ofNat_eq {n : Nat} (h : n < 18446744073709551616) :
    ofNat n = .number (.integer ⟨n, by omega, by omega⟩) := by
  rw [ofNat, ofInt?, WideInt.ofInt?_val ⟨n, by omega, by omega⟩]
  rfl

theorem ofNat_injective {n n' : Nat} (hn : n < 18446744073709551616)
    (hn' : n' < 18446744073709551616) (h : ofNat n = ofNat n') : n = n' := by
  rw [ofNat_eq hn, ofNat_eq hn'] at h
  injection h with h
  injection h with h
  injection h with h
  exact Int.ofNat.inj h

end Value

namespace Delay

variable {d : Delay} {u v w : Value} {n n' bound : Nat} {members : Bindings Value}

theorem natBelow?_eq_some_iff (hbound : bound ≤ 18446744073709551616) :
    natBelow? bound v = some n ↔ n < bound ∧ v = .ofNat n := by
  constructor
  · intro h
    unfold natBelow? at h
    split at h
    · next i =>
      obtain ⟨⟨hnonneg, hlt⟩, hn⟩ := Option.ite_none_right_eq_some.1 h
      obtain rfl := Option.some.inj hn
      refine ⟨by omega, ?_⟩
      rw [Value.ofNat_eq (by omega)]
      simp only [Int.toNat_of_nonneg hnonneg]
    · cases h
  · rintro ⟨hlt, rfl⟩
    rw [Value.ofNat_eq (by omega)]
    exact if_pos ⟨by simp, by simpa using hlt⟩

theorem Parts.unique (h : Parts u w n) (h' : Parts u w n') : n = n' := by
  obtain ⟨secs, nanos, hsecs, hnanos, rfl, rfl, rfl⟩ := h
  obtain ⟨secs', nanos', hsecs', hnanos', heq, heq', rfl⟩ := h'
  rw [Value.ofNat_injective hsecs hsecs' heq,
    Value.ofNat_injective (by omega) (by omega) heq']

theorem Denotes.unique (h : Denotes v n) (h' : Denotes v n') : n = n' := by
  cases h with
  | named hkeys hsecs hnanos hparts =>
    cases h' with
    | named _ hsecs' hnanos' hparts' =>
      obtain rfl := Option.some.inj (hsecs.symm.trans hsecs')
      obtain rfl := Option.some.inj (hnanos.symm.trans hnanos')
      exact hparts.unique hparts'
  | placed hparts =>
    cases h' with
    | placed hparts' => exact hparts.unique hparts'

theorem ofValues?_eq_some_iff : ofValues? u w = some d ↔ Parts u w d.toNanos := by
  simp only [ofValues?, bind, Option.bind_eq_some_iff, natBelow?_eq_some_iff (Nat.le_refl _),
    natBelow?_eq_some_iff (show 4294967296 ≤ 18446744073709551616 by decide), ofParts?_eq_some_iff]
  constructor
  · rintro ⟨secs, ⟨hsecs, rfl⟩, nanos, ⟨hnanos, rfl⟩, htotal⟩
    exact ⟨secs, nanos, hsecs, hnanos, rfl, rfl, htotal⟩
  · rintro ⟨secs, nanos, hsecs, hnanos, rfl, rfl, htotal⟩
    exact ⟨secs, ⟨hsecs, rfl⟩, nanos, ⟨hnanos, rfl⟩, htotal⟩

theorem ofValue?_object (members : Bindings Value) : ofValue? (.object members) =
    if ∀ k ∈ Bindings.keys members, k = "secs" ∨ k = "nanos" then
      (Bindings.get? members "secs").bind fun u =>
        (Bindings.get? members "nanos").bind fun w => ofValues? u w
    else none := by
  have hkeys : (Bindings.keys members).all (fun k => k == "secs" || k == "nanos") = true ↔
      ∀ k ∈ Bindings.keys members, k = "secs" ∨ k = "nanos" := by simp
  simp only [← hkeys, ofValue?]
  cases (Bindings.keys members).all (fun k => k == "secs" || k == "nanos") <;> rfl

/-- **A span is read** just if the value denotes its nanoseconds. -/
theorem ofValue?_eq_some_iff : ofValue? v = some d ↔ Denotes v d.toNanos := by
  constructor
  · intro h
    cases v with
    | object members =>
      rw [ofValue?_object] at h
      obtain ⟨hkeys, h⟩ := Option.ite_none_right_eq_some.1 h
      obtain ⟨u, hsecs, h⟩ := Option.bind_eq_some_iff.1 h
      obtain ⟨w, hnanos, h⟩ := Option.bind_eq_some_iff.1 h
      exact .named hkeys hsecs hnanos (ofValues?_eq_some_iff.1 h)
    | array items =>
      match items with
      | [u, w] => exact .placed (ofValues?_eq_some_iff.1 h)
    | _ => cases h
  · intro h
    cases h with
    | named hkeys hsecs hnanos hparts =>
      rw [ofValue?_object, if_pos hkeys, hsecs, hnanos]
      exact ofValues?_eq_some_iff.2 hparts
    | placed hparts => exact ofValues?_eq_some_iff.2 hparts

end Delay

namespace WriteBackMode

variable {m : WriteBackMode} {s s' : Schedule} {v : Value}

theorem Denotes.unique (h : Denotes v s) (h' : Denotes v s') : s = s' := by
  cases h with
  | name hname =>
    cases h' with
    | name hname' => exact Schedule.eq_of_name? hname hname'
  | overNull hname =>
    cases h' with
    | overNull hname' => exact Schedule.eq_of_name? hname hname'
  | debounced hdelay h =>
    cases h' with
    | debounced hdelay' h' =>
      obtain rfl := Option.some.inj (hdelay.symm.trans hdelay')
      rw [h.unique h']

theorem ofValue?_name {name : String} (h : m.schedule.name? = some name) :
    ofValue? (.string name) = some m ∧ ofValue? (.object [(name, .null)]) = some m := by
  cases m with
  | debounced delay => cases h
  | immediate => cases h; exact ⟨rfl, rfl⟩
  | manual => cases h; exact ⟨rfl, rfl⟩

/-- **A mode is read** just if the value denotes its schedule. -/
theorem ofValue?_eq_some_iff : ofValue? v = some m ↔ Denotes v m.schedule := by
  constructor
  · intro h
    unfold ofValue? at h
    split at h
    case h_5 members =>
      obtain ⟨delay, hdelay, h⟩ := Option.bind_eq_some_iff.1 h
      obtain ⟨d, hd, h⟩ := Option.bind_eq_some_iff.1 h
      cases h
      exact .debounced hdelay (Delay.ofValue?_eq_some_iff.1 hd)
    all_goals cases h
    · exact .name rfl
    · exact .name rfl
    · exact .overNull rfl
    · exact .overNull rfl
  · intro h
    generalize hs : m.schedule = s at h
    cases h with
    | name hname => exact (ofValue?_name (hs ▸ hname)).1
    | overNull hname => exact (ofValue?_name (hs ▸ hname)).2
    | debounced hdelay h =>
      cases m with
      | debounced d =>
        obtain rfl := Schedule.debounced.inj hs
        rw [← Delay.ofValue?_eq_some_iff] at h
        simp [ofValue?, hdelay, h]
      | immediate => cases hs
      | manual => cases hs

end WriteBackMode

namespace Config

variable {c : Config} {s s' : Schedule} {v : Value}

theorem Denotes.unique (h : Denotes v s) (h' : Denotes v s') : s = s' := by
  cases h with
  | named hmode h =>
    cases h' with
    | named hmode' h' =>
      obtain rfl := Option.some.inj (hmode.symm.trans hmode')
      exact h.unique h'
  | placed h =>
    cases h' with
    | placed h' => exact h.unique h'

theorem read_eq_ok_iff {mode : Option WriteBackMode} :
    ofValue?.read mode = .ok c ↔ mode = some c.writeBack := by
  obtain ⟨m⟩ := c
  cases mode with
  | none => simp [ofValue?.read]
  | some m' => simp [ofValue?.read]

/-- **A configuration is read** just if the value denotes its schedule. -/
theorem ofValue?_eq_ok_iff : ofValue? v = .ok c ↔ Denotes v c.writeBack.schedule := by
  constructor
  · intro h
    unfold ofValue? at h
    split at h
    · next members =>
      obtain ⟨mode, hmode, h⟩ := Option.bind_eq_some_iff.1 (read_eq_ok_iff.1 h)
      exact .named hmode (WriteBackMode.ofValue?_eq_some_iff.1 h)
    · next mode => exact .placed (WriteBackMode.ofValue?_eq_some_iff.1 (read_eq_ok_iff.1 h))
    · cases h
  · intro h
    cases h with
    | named hmode h =>
      refine read_eq_ok_iff.2 ?_
      rw [hmode]
      exact WriteBackMode.ofValue?_eq_some_iff.2 h
    | placed h => exact read_eq_ok_iff.2 (WriteBackMode.ofValue?_eq_some_iff.2 h)

theorem eq_serialization_of_error {e : StoreError} (h : ofValue? v = .error e) :
    e = .serialization := by
  have hread {mode : Option WriteBackMode} (h : ofValue?.read mode = .error e) :
      e = .serialization := by
    cases mode <;> cases h
    rfl
  unfold ofValue? at h
  split at h
  · exact hread h
  · exact hread h
  · cases h
    rfl

/-- **A value is refused** just if it denotes no schedule that fits. -/
theorem ofValue?_eq_error_iff {e : StoreError} :
    ofValue? v = .error e ↔ e = .serialization ∧ ∀ s, Denotes v s → ¬ s.Fits := by
  constructor
  · intro h
    refine ⟨eq_serialization_of_error h, fun s hs hfits => ?_⟩
    obtain ⟨m, rfl⟩ := WriteBackMode.exists_schedule_iff.2 hfits
    rw [ofValue?_eq_ok_iff (c := ⟨m⟩) |>.2 hs] at h
    cases h
  · rintro ⟨rfl, h⟩
    cases hread : ofValue? v with
    | ok c =>
      exact absurd (WriteBackMode.exists_schedule_iff.1 ⟨c.writeBack, rfl⟩)
        (h _ (ofValue?_eq_ok_iff.1 hread))
    | error e => rw [eq_serialization_of_error hread]

end Config

/-! ## What is written -/

namespace Delay

theorem toValue_eq (d : Delay) : d.toValue = .object
    [("secs", .number (.integer ⟨d.secs, by omega, by have := d.secs_lt; omega⟩)),
      ("nanos", .number (.integer ⟨d.nanos, by omega, by have := d.nanos_lt; omega⟩))] := by
  have := d.nanos_lt
  rw [toValue, Value.ofNat_eq d.secs_lt, Value.ofNat_eq (by omega)]

theorem denotes_toValue (d : Delay) : Denotes d.toValue d.toNanos :=
  .named (by simp [Bindings.keys]) rfl rfl
    ⟨d.secs, d.nanos, d.secs_lt, by have := d.nanos_lt; omega, rfl, rfl,
      congrArg (· + d.nanos) (Nat.mul_comm 1000000000 d.secs)⟩

/-- The two parts are integers, and those are read back. -/
theorem legible_toValue (d : Delay) : d.toValue.Legible := by
  rw [toValue_eq]
  constructor
  · simp [Value.WellFormed, Value.MembersWellFormed, Bindings.Distinct, Bindings.keys]
  · simp [Value.numbers, Value.membersNumbers, Number.readsBack_integer]

end Delay

namespace WriteBackMode

theorem denotes_toValue (m : WriteBackMode) : Denotes m.toValue m.schedule := by
  cases m with
  | debounced delay => exact .debounced rfl delay.denotes_toValue
  | immediate => exact .name rfl
  | manual => exact .name rfl

theorem legible_toValue (m : WriteBackMode) : m.toValue.Legible := by
  cases m with
  | debounced d => exact (d.legible_toValue.single "delay").single "Debounced"
  | immediate => exact ⟨trivial, by simp [toValue, Value.numbers]⟩
  | manual => exact ⟨trivial, by simp [toValue, Value.numbers]⟩

end WriteBackMode

namespace Config

theorem denotes_toValue (c : Config) : Denotes c.toValue c.writeBack.schedule :=
  .named rfl c.writeBack.denotes_toValue

theorem legible_toValue (c : Config) : c.toValue.Legible :=
  c.writeBack.legible_toValue.single "write_back"

theorem depth_toValue_le (c : Config) : c.toValue.depth ≤ 4 := by
  obtain ⟨m⟩ := c
  cases m with
  | debounced d =>
    rw [toValue, WriteBackMode.toValue, d.toValue_eq]
    exact Nat.le_refl 4
  | immediate => decide
  | manual => decide

/-- **Configurations come back from what is written of them.** The written form of a
configuration is read as it, and so is the value of its text, for a reader that goes
four levels deep. A value is read as a configuration just if it denotes the schedule
of that one, the delay to the nanosecond, and is refused just if it denotes none or
one whose delay does not fit; it denotes no two. So whatever a configuration was read
from, it is the one that its written form gives. -/
theorem written_form_round_trips :
    (∀ c : Config, ofValue? c.toValue = .ok c ∧
      ∀ levels, 4 ≤ levels → (Value.read? levels c.toValue.print).map ofValue? = some (.ok c)) ∧
    ∀ v, (∀ c, ofValue? v = .ok c ↔ Denotes v c.writeBack.schedule) ∧
      (∀ e, ofValue? v = .error e ↔ e = .serialization ∧ ∀ s, Denotes v s → ¬ s.Fits) ∧
      ∀ s s', Denotes v s → Denotes v s' → s = s' := by
  refine ⟨fun c => ?_, fun v =>
    ⟨fun _ => ofValue?_eq_ok_iff, fun _ => ofValue?_eq_error_iff, fun _ _ => Denotes.unique⟩⟩
  have hread : ofValue? c.toValue = .ok c := ofValue?_eq_ok_iff.2 c.denotes_toValue
  refine ⟨hread, fun levels hlevels => ?_⟩
  rw [c.legible_toValue.read?_print, if_pos (Nat.le_trans c.depth_toValue_le hlevels),
    Option.map_some, hread]

/-- An array with a delay beside what is passed over, whose nanoseconds carry over into
the seconds: at most to the longest span there is, which is read back from its text,
and one nanosecond more is refused. -/
theorem written_form_round_trips_carrying :
    let v (nanos : Nat) : Value := .array [.object [("Debounced", .object [("x", .null),
      ("delay", .object [("nanos", .ofNat nanos), ("secs", .ofNat 18446744073709551614)])])]]
    let c : Config := ⟨.debounced ⟨18446744073709551615, 999999999, by decide, by decide⟩⟩
    ofValue? (v 1999999999) = .ok c ∧
      (Value.read? 127 c.toValue.print).map ofValue? = some (.ok c) ∧
      ofValue? (v 2000000000) = .error .serialization := by
  intro v c
  obtain ⟨hwritten, hread⟩ := written_form_round_trips
  have hdenotes (nanos : Nat) (hlt : nanos < 4294967296) :
      Denotes (v nanos) (.debounced (18446744073709551614 * 1000000000 + nanos)) :=
    .placed (.debounced rfl (.named (by simp [Bindings.keys]) rfl rfl
      ⟨18446744073709551614, nanos, by decide, hlt, rfl, rfl, rfl⟩))
  refine ⟨((hread _).1 c).2 (hdenotes 1999999999 (by decide)), (hwritten c).2 127 (by decide),
    ((hread _).2.1 _).2 ⟨rfl, fun s hs => ?_⟩⟩
  obtain rfl := (hread _).2.2 s _ hs (hdenotes 2000000000 (by decide))
  simp [Schedule.Fits]

end Config

end DocumentStore
