import DocumentStore.Proofs.Run

/-!
# Numbering — generations across collections

A generation is given to one entry only, of whatever collection of the
database (`Database.Numbered`): an entry that was there keeps the one it has,
a document that is put gets the next, and what is loaded is numbered in one
go. So the generations of a session stay apart whatever it does
(`numbered_step`).

Of the operations on documents, updates leave the ids, the generations and
the order of every collection as they are (`stamps_step_of_updates`), and
removals leave a part of it in its order (`sublist_step_of_discards`).
-/

namespace DocumentStore

namespace Database

variable {db db' : Database} {s : StoreId} {e : Edit}

/-- No two entries have the same generation, of one collection or of two. -/
def Numbered (db : Database) : Prop :=
  ∀ r id e r' id' e', (id, e) ∈ db.entries r → (id', e') ∈ db.entries r' →
    e.generation = e'.generation → r = r' ∧ id = id'

theorem Numbered.of_entries (h : db.Numbered) (hentries : ∀ r, db'.entries r = db.entries r) :
    db'.Numbered := by
  intro r id e r' id' e' he he' heq
  rw [hentries] at he he'
  exact h r id e r' id' e' he he' heq

theorem Numbered.of_sameData (h : db.Numbered) (hdata : SameData db db') : db'.Numbered :=
  h.of_entries hdata.entries

/-- **An edit gives the next generation to one entry at most.** -/
theorem Numbered.perform (h : db.Numbered) (hdb : db.Sound) (ha : e.Allowed db s) :
    (e.perform s db).Numbered := by
  have horigin {r : RootId} {id : String} {e' : Entry}
      (he : (id, e') ∈ (e.perform s db).entries r) :
      (∃ e₀, (id, e₀) ∈ db.entries r ∧ e'.generation = e₀.generation) ∨
        (e'.generation = db.generation ∧ ∃ fields words, e = .put r id fields words) := by
    rw [entries_perform ha] at he
    refine (Edit.mem_rewrite_generation he).imp_right ?_
    rintro ⟨fields, words, hput, rfl⟩
    exact ⟨rfl, fields, words, hput⟩
  intro r id e₁ r' id' e₂ h₁ h₂ heq
  -- what was there has an earlier generation than what was put
  rcases horigin h₁ with ⟨old, hold, hgeneration⟩ | ⟨hnext, fields, words, hput⟩ <;>
    rcases horigin h₂ with ⟨old', hold', hgeneration'⟩ | ⟨hnext', fields', words', hput'⟩
  · exact h r id old r' id' old' hold hold' (by rw [← hgeneration, ← hgeneration', heq])
  · have hlt := hdb.lt_generation r id old hold
    omega
  · have hlt := hdb.lt_generation r' id' old' hold'
    omega
  · rw [hput] at hput'
    cases hput'
    exact ⟨rfl, rfl⟩

/-- **What is loaded is numbered in one go**, behind what there is. -/
theorem Numbered.init (h : db.Numbered) (hdb : db.Sound) (hinit : db.init s = .ok db') :
    db'.Numbered := by
  rcases init_ok hinit with ⟨-, rfl⟩ | ⟨-, names, db₁, hl, -, rfl⟩
  · exact h
  have hloaded : db₁.Numbered := by
    intro r id e r' id' e' he he' heq
    rcases Nat.lt_or_ge r db.roots.length with hr | hr <;>
      rcases Nat.lt_or_ge r' db.roots.length with hr' | hr'
    · rw [hl.entries hr] at he
      rw [hl.entries hr'] at he'
      exact h r id e r' id' e' he he' heq
    · have hlt := hdb.lt_generation r id e (hl.entries hr ▸ he)
      have hle := (hl.fresh hr').first_le id' e' he'
      omega
    · have hlt := hdb.lt_generation r' id' e' (hl.entries hr' ▸ he')
      have hle := (hl.fresh hr).first_le id e he
      omega
    · -- both were loaded: from one collection, or from two, of which one was numbered before
      rcases Nat.lt_trichotomy r r' with hlt | rfl | hlt
      · exact absurd heq (Nat.ne_of_lt (hl.numberedBefore hr hlt id e id' e' he he'))
      · exact ⟨rfl, (hl.fresh hr).apart id e id' e' he he' heq⟩
      · exact absurd heq.symm (Nat.ne_of_lt (hl.numberedBefore hr' hlt id' e' id e he' he))
  exact hloaded.of_entries fun _ => rfl

end Database

namespace Session

open Database

variable {x : Session} {a : Action} {r : RootId} {s : StoreId} {e : Edit}

/-- **A step gives no generation twice.** -/
theorem numbered_step (hx : x.Sound) (h : x.database.Numbered) (a : Action) :
    (x.step a).1.database.Numbered := by
  rcases database_step hx a with hf | ⟨config, db, rfl, hf, hinit⟩
  · refine Numbered.of_sameData ?_ hf.sameData
    rcases effect_cases x a with ⟨s, e, he, heq⟩ | ⟨-, heq | ⟨s, rfl, -, hinit⟩ | ⟨b, rfl, heq⟩⟩
    · rw [heq]
      exact (h.perform hx.database (hx.allowed he)).of_sameData sameData_mark
    · rwa [heq]
    · exact h.init hx.database hinit
    · rw [heq]
      exact h.of_entries fun _ => rfl
  · have hadded : (db.addStore config).2.Numbered :=
      (h.of_sameData hf.sameData).of_entries fun _ => rfl
    exact hadded.init ((hx.database.upkept hf).addStore config) hinit

/-- The operations that update documents. -/
inductive Updates : Action → Prop
  | view (view : String) (p : Patch) : Updates (.onView view (.update p))
  | viewValue (view : String) (value : Value) : Updates (.onView view (.updateValue value))
  | handle (handle : String) (p : Patch) : Updates (.onHandle handle (.update p))
  | handleValue (handle : String) (value : Value) : Updates (.onHandle handle (.updateValue value))

/-- The operations that remove documents. -/
inductive Discards : Action → Prop
  | view (view : String) : Discards (.onView view .remove)
  | handle (handle : String) : Discards (.onHandle handle .remove)

/-- The edit of an update patches. -/
theorem Updates.edit? (ha : Updates a) (he : x.edit? a = some (s, e)) :
    ∃ r selects p, e = .patch r selects p := by
  cases ha with
  | view view p =>
    obtain ⟨v, -, -, he⟩ := edit?_onView_eq_some_iff.1 he
    exact ⟨_, _, _, (Option.some.inj he).symm⟩
  | viewValue view value =>
    obtain ⟨v, -, -, he⟩ := edit?_onView_eq_some_iff.1 he
    obtain ⟨p, -, rfl⟩ := Option.map_eq_some_iff.1 he
    exact ⟨_, _, _, rfl⟩
  | handle handle p =>
    obtain ⟨h, -, -, he⟩ := edit?_onHandle_eq_some_iff.1 he
    exact ⟨_, _, _, (Option.some.inj (Option.ite_none_right_eq_some.1 he).2).symm⟩
  | handleValue handle value =>
    obtain ⟨h, -, -, he⟩ := edit?_onHandle_eq_some_iff.1 he
    obtain ⟨p, -, rfl⟩ := Option.map_eq_some_iff.1 (Option.ite_none_right_eq_some.1 he).2
    exact ⟨_, _, _, rfl⟩

/-- The edit of a removal discards. -/
theorem Discards.edit? (ha : Discards a) (he : x.edit? a = some (s, e)) :
    ∃ r selects, e = .discard r selects := by
  cases ha with
  | view view =>
    obtain ⟨v, -, -, he⟩ := edit?_onView_eq_some_iff.1 he
    exact ⟨_, _, (Option.some.inj he).symm⟩
  | handle handle =>
    obtain ⟨h, -, -, he⟩ := edit?_onHandle_eq_some_iff.1 he
    exact ⟨_, _, (Option.some.inj (Option.ite_none_right_eq_some.1 he).2).symm⟩

/-- **An update leaves ids, generations and order as they are**, of every
collection. -/
theorem stamps_step_of_updates (hx : x.Sound) (ha : Updates a) (r : RootId) :
    ((x.step a).1.database.entries r).stamps = (x.database.entries r).stamps := by
  rcases entries_step hx a r with ⟨s, e, he, -, hrewrite⟩ | ⟨-, hsame⟩ | ⟨hloads, -⟩
  · obtain ⟨r', selects, p, rfl⟩ := ha.edit? he
    rw [hrewrite, Edit.rewrite]
    split
    · exact Entries.stamps_map fun e => by split <;> rfl
    · rfl
  · rw [hsame]
  · cases ha <;> cases hloads

/-- **A removal leaves a part of every collection**, in its order. -/
theorem sublist_step_of_discards (hx : x.Sound) (ha : Discards a) (r : RootId) :
    List.Sublist ((x.step a).1.database.entries r) (x.database.entries r) := by
  rcases entries_step hx a r with ⟨s, e, he, -, hrewrite⟩ | ⟨-, hsame⟩ | ⟨hloads, -⟩
  · obtain ⟨r', selects, rfl⟩ := ha.edit? he
    rw [hrewrite, Edit.rewrite]
    split
    · exact List.filter_sublist
    · exact List.Sublist.refl _
  · rw [hsame]
  · cases ha <;> cases hloads

end Session

end DocumentStore
