import DocumentStore.Proofs.Restart
import DocumentStore.Proofs.Roundtrip
import DocumentStore.Proofs.WellFormed

/-!
# Reading back — what a host in a file accepts, and what it gives

A host in a file accepts snapshots of any depth, and reads them only so deep
(`FileHost.maxLevels`). What it accepted is its content until something else is
written to it, and the content is read as the snapshot just if that is no deeper
(`Database.returns_of_holds`); a deeper one is refused when it is read, and no
store can be opened on the host any more. A snapshot lies two levels around its
documents (`Contents.depth_toValue_le_iff`), so that it is the documents of more
than 125 levels that are lost this way, and all others with them.
-/

namespace DocumentStore

/-! ## Values -/

namespace Value

variable {n : Nat}

/-- A well-formed value is legible if its doubles are read back, since its
integers are. -/
theorem legible_of_floats {v : Value} (hv : v.WellFormed)
    (hfloats : ∀ x, .float x ∈ v.numbers → (Number.float x).ReadsBack) : v.Legible where
  wellFormed := hv
  numbers n hn := by
    cases n with
    | integer n => exact Number.readsBack_integer n
    | float x => exact hfloats x hn

end Value

/-- The host is one in a file. -/
def Host.IsFile : Host → Prop
  | .file _ => True
  | .memory _ => False

theorem Host.IsFile.persist {h : Host} (hh : h.IsFile) (v : Value) : (h.persist v).1.IsFile := by
  cases h with
  | file h => trivial
  | memory h => cases hh

theorem Host.IsFile.setFailing {h : Host} (hh : h.IsFile) (failing : Bool) :
    (h.setFailing failing).IsFile := by
  cases h with
  | file h => trivial
  | memory h => cases hh

/-- **What is held in a file is read back if it is not too deep.** -/
theorem Host.load?_of_holds {h : Host} {v : Value} (hh : h.IsFile) (hheld : h.Holds v)
    (hv : v.Legible) : h.load? =
      if v.depth ≤ FileHost.maxLevels then .ok (some v) else .error .serialization := by
  cases h with
  | memory h => cases hh
  | file h =>
    rw [Host.load?, FileHost.load?_eq_of_content? hheld, hv.read?_print]
    by_cases hdepth : v.depth ≤ FileHost.maxLevels
    · rw [if_pos hdepth, if_pos hdepth]
    · rw [if_neg hdepth, if_neg hdepth]

namespace Database

variable {db db' : Database} {s : StoreId} {v : Value}

/-- **A snapshot is returned** to those who load it and to those who open a store
on the host, or refused to both, by its depth. -/
structure Returns (db : Database) (v : Value) : Prop where
  load : db.host.load? =
    if v.depth ≤ FileHost.maxLevels then .ok (some v) else .error .serialization
  opens : ∀ config, (∃ s db', db.openStore config = .ok (s, db')) ↔
    v.depth ≤ FileHost.maxLevels

/-- A store can be opened on a host just if the host can be read, where what it
holds is an object. -/
theorem exists_openStore_iff (config : Config)
    (hobject : ∀ v, db.host.load? = .ok v → ∃ members, v = some (.object members)) :
    (∃ s db', db.openStore config = .ok (s, db')) ↔ ∃ v, db.host.load? = .ok v := by
  have hnone : (db.addStore config).2.collections? db.stores.length = none :=
    collections_addStore_self config
  constructor
  · rintro ⟨s, db', hopen⟩
    obtain ⟨rfl, hinit⟩ := openStore_eq_ok_iff.1 hopen
    rcases init_eq_ok hinit with ⟨hsome, -⟩ | ⟨v, names, db₁, -, hload, -⟩
    · rw [hnone] at hsome
      cases hsome
    · exact ⟨v, hload⟩
  · rintro ⟨v, hload⟩
    obtain ⟨members, rfl⟩ := hobject v hload
    exact ⟨_, _, openStore_eq_ok_iff.2 ⟨rfl, init_of_load hnone hload rfl⟩⟩

/-- **What a host in a file holds it returns, or refuses to**, by its depth. -/
theorem returns_of_holds (hh : db.host.IsFile) (hheld : db.host.Holds v) (hv : v.Legible)
    (hobject : ∃ members, v = .object members) : db.Returns v := by
  have hload := Host.load?_of_holds hh hheld hv
  refine ⟨hload, fun config => ?_⟩
  rw [exists_openStore_iff config, hload]
  · by_cases hdepth : v.depth ≤ FileHost.maxLevels
    · simp [hdepth]
    · simp [hdepth]
  · intro w hw
    rw [hload] at hw
    obtain ⟨members, rfl⟩ := hobject
    split at hw
    · cases hw
      exact ⟨members, rfl⟩
    · cases hw

end Database

/-! ## Runs -/

namespace Session

open Database

theorem isFile_moment (h : FileHost) (config : Config) (words : List UInt32)
    (actions : List Action) (t : Nat) :
    ((start (.file h) config words).moment actions t).database.host.IsFile :=
  host_induction (fun _ v hh => hh.persist v) (fun _ failing hh => hh.setFailing failing)
    (sound_start _ config words) trivial actions t

/-- Arrays within each other, the innermost empty. -/
def nested : Nat → Value
  | 0 => .array []
  | n + 1 => .array [nested n]

/-- A run that adds a document with such arrays and persists it. -/
def nesting (n : Nat) : List Action :=
  [.onStore .init, .onStore (.createCollection "t" "c"),
    .onView "c" (.add (.object [("_id", .string "a"), ("x", nested n)])), .onStore .flush]

/-- The snapshot that it persists. -/
def nestedSnapshot (n : Nat) : Value :=
  .object [("t", .object [("a", .object [("x", nested n)])])]

theorem depth_nested (n : Nat) : (nested n).depth = n + 1 := by
  induction n with
  | zero => rfl
  | succ n ih => simp [nested, Value.depth, Value.itemsDepth, ih]

theorem wellFormed_nested (n : Nat) : (nested n).WellFormed := by
  induction n with
  | zero => trivial
  | succ n ih => exact ⟨ih, trivial⟩

theorem numbers_nested (n : Nat) : (nested n).numbers = [] := by
  induction n with
  | zero => rfl
  | succ n ih => simp [nested, Value.numbers, Value.itemsNumbers, ih]

theorem depth_nestedSnapshot (n : Nat) : (nestedSnapshot n).depth = n + 4 := by
  simp [nestedSnapshot, Value.depth, Value.membersDepth, depth_nested]

theorem wellFormed_nesting (n : Nat) : ∀ a ∈ nesting n, a.WellFormed := by
  have hdocument : (Value.object [("_id", .string "a"), ("x", nested n)]).WellFormed :=
    ⟨by simp [Bindings.Distinct, Bindings.keys], trivial, wellFormed_nested n, trivial⟩
  simpa [nesting, Action.WellFormed] using hdocument

theorem keepsHost_nesting (n : Nat) : ∀ a ∈ nesting n, a.KeepsHost := by
  simp [nesting, Action.KeepsHost]

/-- The host accepts the snapshot, however deep it is. -/
theorem offers_nesting (n : Nat) : ((start (.file ⟨[], ["db.json"]⟩) .default []).moment (nesting n)
    4).database.offers = [⟨0, nestedSnapshot n, true⟩] := rfl

theorem no_floats_nestedSnapshot (n : Nat) (x : Finite64) :
    Number.float x ∉ (nestedSnapshot n).numbers := by
  simp [nestedSnapshot, Value.numbers, Value.membersNumbers, numbers_nested]

/-- A document of 126 levels is accepted, and then the host can be neither loaded
nor opened. -/
theorem accepted_not_read_back :
    let db := ((start (.file ⟨[], ["db.json"]⟩) .default []).moment (nesting 124) 4).database
    db.offers = [⟨0, nestedSnapshot 124, true⟩] ∧ db.host.load? = .error .serialization ∧
      ∀ config, ¬ ∃ s db', db.openStore config = .ok (s, db') := by
  intro db
  have hstart := sound_start (.file ⟨[], ["db.json"]⟩) .default []
  have hheld : db.host.Holds (nestedSnapshot 124) :=
    holdsLatest_moment hstart (holdsLatest_start _ _ _) (keepsHost_nesting 124) 4 [] _ []
      (offers_nesting 124) rfl (by simp)
  have hwell : db.WellFormed :=
    wellFormed_moment hstart (wellFormed_start (Host.wellFormed_file _) _ _)
      (wellFormed_nesting 124) 4
  have hlegible : (nestedSnapshot 124).Legible := by
    refine Value.legible_of_floats (hwell.offers ⟨0, nestedSnapshot 124, true⟩ ?_).1
      fun x hx => absurd hx (no_floats_nestedSnapshot 124 x)
    rw [offers_nesting 124]
    exact List.mem_singleton_self _
  have hreturns : db.Returns (nestedSnapshot 124) :=
    returns_of_holds (isFile_moment _ _ _ _ 4) hheld hlegible ⟨_, rfl⟩
  have hdeep : ¬ (nestedSnapshot 124).depth ≤ FileHost.maxLevels := by
    rw [depth_nestedSnapshot]
    decide
  exact ⟨offers_nesting 124, hreturns.load.trans (if_neg hdeep),
    fun config => mt (hreturns.opens config).1 hdeep⟩

/-! ## What is read back -/

end Session

end DocumentStore
