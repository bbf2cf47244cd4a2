import DocumentStore.Host

/-!
# Hosting — what a host holds after it was given a snapshot

A host that accepts a snapshot holds it (`Host.Holds`), in memory as a value
and in a file as its text, and a host that refuses one still holds what it
held. For a file this rests on the directories of the tree: writing a file
makes none and takes none away (`Tree.SameDirectories`), so that a path that
led to a file still does, and a place that could be written to once can be
written to again.
-/

namespace DocumentStore

namespace Tree

variable {t t' : Tree} {l l' here : Location} {item : Item} {path : Path} {s : String}

/-! ## Items -/

theorem lookup_remove (t : Tree) (l l' : Location) :
    (t.remove l).lookup l' = if l' = l then none else t.lookup l' := by
  unfold remove
  induction t with
  | nil => simp
  | cons e rest ih =>
    obtain ⟨l₁, item₁⟩ := e
    by_cases h : l₁ = l
    · subst h
      rw [List.filter_cons_of_neg (by simp), ih]
      by_cases h' : l' = l₁
      · simp [h']
      · simp [h', List.lookup_cons, beq_false_of_ne h']
    · rw [List.filter_cons_of_pos (by simpa using h), List.lookup_cons, List.lookup_cons, ih]
      by_cases h' : l' = l₁
      · simp [h', h]
      · simp [beq_false_of_ne h']

theorem item?_remove (hl : l.isPrefixOf base = false) :
    (t.remove l).item? l' = if l' = l then none else t.item? l' := by
  simp only [item?, lookup_remove]
  by_cases h : l' = l
  · simp [h, hl]
  · simp [h]

theorem item?_put (hl : l.isPrefixOf base = false) :
    (t.put l item).item? l' = if l' = l then some item else t.item? l' := by
  simp only [item?, put, List.lookup_append, lookup_remove, List.lookup_cons, List.lookup_nil]
  by_cases h : l' = l
  · simp [h, hl]
  · simp [h, beq_false_of_ne h]

/-- What is no directory is none of those every tree has. -/
theorem isPrefixOf_base_eq_false (h : t.item? l ≠ some .directory) : l.isPrefixOf base = false := by
  unfold item? at h
  split at h
  · exact absurd rfl h
  · next hl => exact Bool.eq_false_iff.2 hl

/-! ## Following paths -/

/-- Two trees have the same directories. -/
def SameDirectories (t t' : Tree) : Prop :=
  ∀ l, t.item? l = some .directory ↔ t'.item? l = some .directory

/-- Putting a file where no directory is keeps the directories. -/
theorem sameDirectories_put (hl : t.item? l ≠ some .directory) (hitem : item ≠ .directory) :
    SameDirectories t (t.put l item) := by
  intro l'
  rw [item?_put (isPrefixOf_base_eq_false hl)]
  by_cases h : l' = l
  · subst h
    simp [hl, hitem]
  · simp [h]

/-- And so does taking away what is no directory. -/
theorem sameDirectories_remove (hl : t.item? l ≠ some .directory) :
    SameDirectories t (t.remove l) := by
  intro l'
  rw [item?_remove (isPrefixOf_base_eq_false hl)]
  by_cases h : l' = l
  · subst h
    simp [hl]
  · simp [h]

/-- Steps are taken from directories. -/
theorem item?_of_step (h : t.step here s = .ok l) : t.item? here = some .directory := by
  unfold step at h
  split at h
  · cases h
  · next hdir => exact hdir
  · cases h

theorem SameDirectories.step (ht : SameDirectories t t') (h : t.step here s = .ok l) :
    t'.step here s = .ok l := by
  have hdir := item?_of_step h
  unfold Tree.step at h ⊢
  rw [hdir] at h
  rw [(ht here).1 hdir]
  exact h

/-- **A path that leads somewhere leads to the same place** in another tree
with the same directories. -/
theorem SameDirectories.follow (ht : SameDirectories t t') (h : t.follow path = .ok l) :
    t'.follow path = .ok l := by
  unfold Tree.follow at h ⊢
  split at h
  · next hpossible =>
    rw [if_pos hpossible]
    clear hpossible
    generalize base = here at h ⊢
    induction path generalizing here with
    | nil => exact h
    | cons s rest ih =>
      simp only [List.foldlM_cons, bind, Except.bind] at h ⊢
      cases hs : t.step here s with
      | error e => rw [hs] at h; cases h
      | ok next =>
        rw [hs] at h
        rw [ht.step hs]
        exact ih next h
  · cases h

/-- The locations above one are directories. -/
def Reached (t : Tree) (l : Location) : Prop :=
  ∀ above, above <+: l → above ≠ l → t.item? above = some .directory

theorem Reached.dropLast (h : t.Reached here) (hdir : t.item? here = some .directory) :
    t.item? here.dropLast = some .directory := by
  by_cases hnil : here = []
  · rwa [hnil] at hdir ⊢
  · refine h _ (List.dropLast_prefix here) fun heq => ?_
    have hlength := congrArg List.length heq
    have hpos := List.length_pos_iff.2 hnil
    rw [List.length_dropLast] at hlength
    omega

theorem Reached.step (h : t.Reached here) (hs : t.step here s = .ok l) : t.Reached l := by
  have hdir := item?_of_step hs
  unfold Tree.step at hs
  rw [hdir] at hs
  dsimp only at hs
  intro above habove hne
  split at hs
  · cases hs; exact h above habove hne
  · split at hs
    · -- one location up
      cases hs
      refine h above (habove.trans (List.dropLast_prefix here)) ?_
      rintro rfl
      have hlength := habove.length_le
      rw [List.length_dropLast] at hlength
      have hnil : above = [] := List.length_eq_zero_iff.1 (by omega)
      exact hne (by rw [hnil]; rfl)
    · split at hs
      · cases hs
      · -- one location down
        cases hs
        rcases List.prefix_concat_iff.1 habove with heq | hprefix
        · exact absurd heq hne
        · by_cases heq : above = here
          · rw [heq, hdir]
          · exact h above hprefix heq

theorem Reached.foldlM (h : t.Reached here) (hp : path.foldlM t.step here = .ok l) :
    t.Reached l := by
  induction path generalizing here with
  | nil => cases hp; exact h
  | cons s rest ih =>
    simp only [List.foldlM_cons, bind, Except.bind] at hp
    cases hs : t.step here s with
    | error e => rw [hs] at hp; cases hp
    | ok next =>
      rw [hs] at hp
      exact ih (h.step hs) hp

theorem reached_base (t : Tree) : t.Reached base := by
  intro above habove hne
  unfold item?
  rw [if_pos (List.isPrefixOf_iff_prefix.2 habove)]

/-- **A path that leads to no directory ends with a name.** -/
theorem isName_getLast_of_follow (h : t.follow path = .ok l) (hl : t.item? l ≠ some .directory) :
    path.getLast?.any Path.isName = true := by
  unfold follow at h
  split at h
  · rcases List.eq_nil_or_concat path with rfl | ⟨above, s, rfl⟩
    · cases h
      exact absurd (by unfold item?; rw [if_pos (by decide)]) hl
    · rw [List.concat_eq_append] at h ⊢
      rw [List.foldlM_append] at h
      simp only [bind, Except.bind] at h
      cases habove : above.foldlM t.step base with
      | error e => rw [habove] at h; cases h
      | ok here =>
        rw [habove] at h
        have hstep : t.step here s = .ok l := by
          cases hs : t.step here s with
          | error e => simp [List.foldlM_cons, bind, Except.bind, hs] at h
          | ok next => simpa [List.foldlM_cons, bind, Except.bind, hs, pure, Except.pure] using h
        have hdir := item?_of_step hstep
        unfold step at hstep
        rw [hdir] at hstep
        dsimp only at hstep
        -- to stay and to go up lead to directories, and every other step is a name
        split at hstep
        · cases hstep; exact absurd hdir hl
        · next hstays =>
          split at hstep
          · cases hstep
            exact absurd (((reached_base t).foldlM habove).dropLast hdir) hl
          · next hup => simpa [Path.isName, hstays] using hup
  · cases h

end Tree

/-! ## Files -/

theorem Tree.target?_eq_some {t : Tree} {path : Path} {l : Location} (h : t.target? path = some l) :
    t.follow path = .ok l ∧ t.item? l ≠ some .directory := by
  unfold target? at h
  split at h
  · split at h
    · next l' hfollow =>
      obtain ⟨hl, heq⟩ := Option.ite_none_left_eq_some.1 h
      cases heq
      exact ⟨hfollow, hl⟩
    · cases h
  · cases h

theorem Tree.target?_of_follow {t : Tree} {path : Path} {l : Location} (h : t.follow path = .ok l)
    (hl : t.item? l ≠ some .directory) : t.target? path = some l := by
  unfold target?
  rw [if_pos (isName_getLast_of_follow h hl), h]
  dsimp only
  rw [if_neg hl]

namespace FileHost

variable {h : FileHost} {v : Value} {content : String}

/-- What the file holds, by where the path leads. -/
theorem content?_eq_some_iff : h.content? = some content ↔
    ∃ l, h.tree.follow h.path = .ok l ∧ h.tree.item? l = some (.text content) := by
  unfold content? Tree.find
  cases h.tree.follow h.path with
  | error e => simp [bind, Except.bind]
  | ok l =>
    cases hitem : h.tree.item? l with
    | none => simp [bind, Except.bind, hitem]
    | some item => cases item <;> simp [bind, Except.bind, pure, Except.pure, hitem]

/-- A file is loaded as what its content is read as, -/
theorem load?_eq_of_content? (hc : h.content? = some content) :
    h.load? = match Value.read? maxLevels content with
      | some v => .ok (some v)
      | none => .error .serialization := by
  obtain ⟨l, hfollow, hitem⟩ := content?_eq_some_iff.1 hc
  have hfind : h.tree.find h.path = .ok (.text content) := by
    simp [Tree.find, bind, Except.bind, pure, Except.pure, hfollow, hitem]
  unfold load?
  cases hread : Value.read? maxLevels content <;> simp [hfind, hread]

/-- if it is read as a value. -/
theorem load?_of_content? (hc : h.content? = some content)
    (hread : Value.read? maxLevels content = some v) : h.load? = .ok (some v) := by
  rw [load?_eq_of_content? hc, hread]

/-- **A snapshot that is accepted is the content of the file.** -/
theorem content?_persist (ha : (h.persist v).2 = true) :
    (h.persist v).1.content? = some v.print := by
  rw [content?_eq_some_iff]
  unfold persist at ha ⊢
  split at ha
  · cases ha
  · next temporary htemporary =>
    dsimp only at ha
    split at ha
    · cases ha
    · next l hl =>
      obtain ⟨-, htemp⟩ := Tree.target?_eq_some htemporary
      obtain ⟨hfollow, hfile⟩ := Tree.target?_eq_some hl
      simp only [hl]
      -- the temporary file comes and goes, and the path leads where it led
      have hput : (h.tree.put temporary (.text v.print)).item? temporary ≠ some .directory := by
        rw [Tree.item?_put (Tree.isPrefixOf_base_eq_false htemp), if_pos rfl]
        simp
      have hremove := Tree.sameDirectories_remove hput
      have hfile' := mt (hremove l).2 hfile
      refine ⟨l, ?_, ?_⟩
      · exact (Tree.sameDirectories_put hfile' (by simp)).follow (hremove.follow hfollow)
      · rw [Tree.item?_put (Tree.isPrefixOf_base_eq_false hfile), if_pos rfl]

/-- **A file that was written stays as it is** when a snapshot is refused:
the place of the file can be written to, so it was the temporary file's
that could not, and nothing was written. -/
theorem persist_of_refused (hc : h.content? = some content) (hr : (h.persist v).2 = false) :
    (h.persist v).1 = h := by
  obtain ⟨l, hfollow, hitem⟩ := content?_eq_some_iff.1 hc
  unfold persist at hr ⊢
  split at hr
  · rfl
  · next temporary htemporary =>
    dsimp only at hr
    split at hr
    · -- the file was found before, so that its place can still be written to
      next hnone =>
      obtain ⟨-, htemp⟩ := Tree.target?_eq_some htemporary
      have hdirectories : h.tree.SameDirectories (h.tree.put temporary (.text v.print)) :=
        Tree.sameDirectories_put htemp (by simp)
      have hl : h.tree.item? l ≠ some .directory := by simp [hitem]
      rw [Tree.target?_of_follow (hdirectories.follow hfollow) (mt (hdirectories l).2 hl)] at hnone
      cases hnone
    · cases hr

end FileHost

/-! ## Hosts -/

namespace Host

variable {h : Host} {v w : Value}

/-- The host holds a snapshot: as a value in memory, as its text in a
file. -/
def Holds : Host → Value → Prop
  | .memory h, v => h.current = some v
  | .file h, v => h.content? = some v.print

/-- **A host that accepts a snapshot holds it.** -/
theorem holds_persist (ha : (h.persist v).2 = true) : (h.persist v).1.Holds v := by
  cases h with
  | memory h =>
    simp only [persist, MemoryHost.persist] at ha ⊢
    split at ha
    · cases ha
    · next hfailing => simp [Holds, hfailing]
  | file h => exact FileHost.content?_persist ha

/-- **A host that refuses one holds what it held.** -/
theorem Holds.persist (hw : h.Holds w) (hr : (h.persist v).2 = false) :
    (h.persist v).1.Holds w := by
  cases h with
  | memory h =>
    simp only [Host.persist, MemoryHost.persist] at hr ⊢
    split at hr
    · next hfailing => simpa [hfailing] using hw
    · cases hr
  | file h =>
    have hsame : (h.persist v).1 = h := FileHost.persist_of_refused hw hr
    simp only [Host.persist]
    rwa [hsame]

theorem Holds.setFailing (hw : h.Holds w) (failing : Bool) : (h.setFailing failing).Holds w := by
  cases h <;> exact hw

/-- A host that gives a snapshot back as it was: one in memory, or one in a
file if the text of the snapshot is read as the snapshot again. -/
def Preserves : Host → Value → Prop
  | .memory _, _ => True
  | .file _, v => Value.read? FileHost.maxLevels v.print = some v

/-- The host was given a snapshot that it preserves, and accepted it. -/
def Accepted (h : Host) (v : Value) : Prop :=
  ∃ before : Host, before.Preserves v ∧ before.persist v = (h, true)

/-- **What a host accepted and preserves, it loads.** -/
theorem Accepted.load?_eq (ha : h.Accepted v) : h.load? = .ok (some v) := by
  obtain ⟨before, hpreserves, hpersist⟩ := ha
  have haccepted : (before.persist v).2 = true := by rw [hpersist]
  have hheld := holds_persist haccepted
  obtain rfl : (before.persist v).1 = h := by rw [hpersist]
  cases before with
  | memory m => exact congrArg Except.ok hheld
  | file m => exact FileHost.load?_of_content? hheld hpreserves

end Host

end DocumentStore
