import SchemaRegistry.Catalog.Basic
/-!
# What an operation does to the rows and the marks of a catalog

Every later argument about catalogs starts from here. A catalog changes by `Catalog.perform` alone,
so it is enough to say, for each of the three operations, which rows there are afterwards and what
the highest number of a subject is. A registration adds one row and may take the place of a row of
the same key; a soft deletion keeps every row up to its mark; a permanent deletion only removes.
The highest number of a subject is moved by registrations of that subject and by nothing else, which
is why it outlives the rows.
-/

set_option autoImplicit false

namespace SchemaRegistry

/-- Where a version stands: its subject and its number. -/
def Version.key (v : Version) : Subject × UInt32 :=
  (v.subject, v.number)

/-- The version as it was registered, before any deletion. -/
def Version.live (v : Version) : Version :=
  { v with isDeleted := false }

@[simp] theorem Version.key_live (v : Version) : v.live.key = v.key := rfl

@[simp] theorem Version.live_live (v : Version) : v.live.live = v.live := rfl

/-- A key is the subject with the number, so no two rows of a catalog have both in common. -/
theorem Version.key_eq_iff {v w : Version} :
    v.key = w.key ↔ v.subject = w.subject ∧ v.number = w.number := by
  simp only [key, Prod.mk.injEq]

/-- Two versions that are one up to the mark of deletion have all else in common. -/
theorem Version.content_of_live_eq {v w : Version} (h : v.live = w.live) :
    v.subject = w.subject ∧ v.number = w.number ∧ v.id = w.id ∧ v.format = w.format ∧
      v.references = w.references ∧ v.text = w.text := by
  obtain ⟨_, _, _, _, _, _, _⟩ := v
  obtain ⟨_, _, _, _, _, _, _⟩ := w
  simp only [live, Version.mk.injEq] at h
  exact ⟨h.1, h.2.1, h.2.2.1, h.2.2.2.1, h.2.2.2.2.1, h.2.2.2.2.2.1⟩

namespace Row

/-- Rows are compared by their keys and by nothing that a key leaves out. -/
theorem sameKey_iff {a b : Row} : a.sameKey b = true ↔ a.version.key = b.version.key := by
  rw [sameKey, Bool.and_eq_true, beq_iff_eq, beq_iff_eq, Version.key_eq_iff]

/-! ## Inserting -/

theorem eq_or_mem_of_mem_insert {row other : Row} {rows : List Row}
    (h : other ∈ row.insert rows) : other = row ∨ other ∈ rows := by
  induction rows with
  | nil => exact Or.inl (List.mem_singleton.mp h)
  | cons first rest ih =>
    rw [insert] at h
    split at h
    · exact List.mem_cons.mp h
    · split at h
      · rcases List.mem_cons.mp h with rfl | h
        · exact Or.inl rfl
        · exact Or.inr (List.mem_cons_of_mem _ h)
      · rcases List.mem_cons.mp h with rfl | h
        · exact Or.inr List.mem_cons_self
        · exact (ih h).imp_right (List.mem_cons_of_mem _)

theorem mem_insert_self (row : Row) (rows : List Row) : row ∈ row.insert rows := by
  induction rows with
  | nil => exact List.mem_singleton_self row
  | cons first rest ih =>
    rw [insert]
    split
    · exact List.mem_cons_self
    · split
      · exact List.mem_cons_self
      · exact List.mem_cons_of_mem _ ih

/-- A row of another key stays when a row is inserted. -/
theorem mem_insert_of_mem {row other : Row} {rows : List Row} (h : other ∈ rows)
    (other_key : other.version.key ≠ row.version.key) : other ∈ row.insert rows := by
  induction rows with
  | nil => cases h
  | cons first rest ih =>
    rw [insert]
    split
    · exact List.mem_cons_of_mem _ h
    · split
      · rename_i same
        rcases List.mem_cons.mp h with rfl | h
        · exact absurd (sameKey_iff.mp same).symm other_key
        · exact List.mem_cons_of_mem _ h
      · rcases List.mem_cons.mp h with rfl | h
        · exact List.mem_cons_self
        · exact List.mem_cons_of_mem _ (ih h)

/-! ## Marking -/

/-- An operation names versions of one subject by their numbers. -/
theorem isAmong_iff {subject : Subject} {numbers : List UInt32} {row : Row} :
    row.isAmong subject numbers = true ↔
      row.version.subject = subject ∧ row.version.number ∈ numbers := by
  rw [isAmong, Bool.and_eq_true, beq_iff_eq, List.contains_iff_mem]

@[simp] theorem live_markDeleted (row : Row) : row.markDeleted.version.live = row.version.live :=
  rfl

@[simp] theorem key_markDeleted (row : Row) : row.markDeleted.version.key = row.version.key := rfl

@[simp] theorem isDeleted_markDeleted (row : Row) : row.markDeleted.version.isDeleted = true := rfl

end Row

/-! ## The rows after an operation -/

namespace Catalog

/-- A row after an operation is the row that was registered, or one that was there before and has
at most been marked. -/
theorem mem_rows_perform {c : Catalog} {op : Op} {row : Row} (h : row ∈ (c.perform op).rows) :
    (∃ v, op = .register v ∧ row = Row.ofVersion v) ∨
      ∃ old ∈ c.rows, row.version.live = old.version.live ∧
        (old.version.isDeleted = true → row.version.isDeleted = true) := by
  cases op with
  | register v =>
    rcases Row.eq_or_mem_of_mem_insert h with rfl | h
    · exact Or.inl ⟨v, rfl, rfl⟩
    · exact Or.inr ⟨row, h, rfl, id⟩
  | softDelete subject numbers =>
    obtain ⟨old, hold, rfl⟩ := List.mem_map.mp h
    refine Or.inr ⟨old, hold, ?_⟩
    split
    · exact ⟨rfl, fun _ => rfl⟩
    · exact ⟨rfl, id⟩
  | permanentDelete subject numbers =>
    exact Or.inr ⟨row, (List.mem_filter.mp h).1, rfl, id⟩

/-- A row stays under its key unless the operation registers that key or removes it for good. -/
theorem exists_mem_rows_perform {c : Catalog} {op : Op} {row : Row} (h : row ∈ c.rows)
    (fresh : ∀ v, op = .register v → v.key ≠ row.version.key)
    (kept : ∀ subject numbers, op = .permanentDelete subject numbers →
      row.isAmong subject numbers = false) :
    ∃ new ∈ (c.perform op).rows, new.version.live = row.version.live := by
  cases op with
  | register v =>
    exact ⟨row, Row.mem_insert_of_mem h (fresh v rfl).symm, rfl⟩
  | softDelete subject numbers =>
    refine ⟨_, List.mem_map_of_mem h, ?_⟩
    split
    · exact Row.live_markDeleted row
    · rfl
  | permanentDelete subject numbers =>
    refine ⟨row, List.mem_filter.mpr ⟨h, ?_⟩, rfl⟩
    rw [kept subject numbers rfl]
    rfl

/-- A permanent deletion leaves no row of the numbers that it names. -/
theorem not_mem_rows_permanentDelete {c : Catalog} {subject : Subject} {numbers : List UInt32}
    {row : Row} (h : row ∈ (c.perform (.permanentDelete subject numbers)).rows)
    (hs : row.version.subject = subject) : row.version.number ∉ numbers := by
  intro hn
  have removed := (List.mem_filter.mp h).2
  rw [Row.isAmong_iff.mpr ⟨hs, hn⟩] at removed
  exact absurd removed (by decide)

/-! ## The marks after an operation -/

/-- Only the mark of the subject is raised, and it never falls: a smaller number leaves it as it
was. -/
theorem lookup_raiseMark (subject other : Subject) (n : UInt32)
    (marks : List (Subject × UInt32)) :
    (raiseMark subject n marks).lookup other =
      if other = subject then some (((marks.lookup subject).map (greater · n)).getD n)
      else marks.lookup other := by
  induction marks with
  | nil =>
    rw [raiseMark, List.lookup_cons]
    by_cases h : other = subject
    · rw [if_pos h, h, beq_self_eq_true]
      rfl
    · rw [if_neg h, beq_false_of_ne h]
  | cons mark rest ih =>
    obtain ⟨s, m⟩ := mark
    rw [raiseMark]
    -- The first mark of the subject is raised where it stands. If there is none, one is put at the
    -- end.
    by_cases hs : s = subject
    · rw [if_pos hs, List.lookup_cons, List.lookup_cons, List.lookup_cons, hs, beq_self_eq_true]
      by_cases h : other = subject
      · rw [if_pos h, h, beq_self_eq_true]
        rfl
      · rw [if_neg h, beq_false_of_ne h]
    · rw [if_neg hs, List.lookup_cons, List.lookup_cons, List.lookup_cons, ih]
      rw [beq_false_of_ne (Ne.symm hs)]
      by_cases h : other = subject
      · rw [if_pos h, if_pos h, h, beq_false_of_ne (Ne.symm hs)]
      · rw [if_neg h, if_neg h]

theorem toNat_greater (a b : UInt32) : (greater a b).toNat = max a.toNat b.toNat := by
  rw [greater]
  split
  · rename_i h
    have := UInt32.lt_iff_toNat_lt.mp h
    omega
  · rename_i h
    have := mt UInt32.lt_iff_toNat_lt.mpr h
    omega

/-- A registration raises the mark of its subject to its number. -/
theorem highestVersion_register (c : Catalog) (v : Version) (subject : Subject) :
    ((c.perform (.register v)).highestVersion subject).toNat =
      if subject = v.subject then max (c.highestVersion subject).toNat v.number.toNat
      else (c.highestVersion subject).toNat := by
  rw [highestVersion, perform, lookup_raiseMark]
  by_cases h : subject = v.subject
  · rw [if_pos h, if_pos h, Option.getD_some, highestVersion, h]
    cases c.highest.lookup v.subject with
    | none =>
      rw [Option.map_none, Option.getD_none, Option.getD_none, UInt32.toNat_zero, Nat.zero_max]
    | some m => rw [Option.map_some, Option.getD_some, Option.getD_some, toNat_greater]
  · rw [if_neg h, if_neg h, highestVersion]

/-- No operation lowers a mark. -/
theorem highestVersion_le_perform (c : Catalog) (op : Op) (subject : Subject) :
    (c.highestVersion subject).toNat ≤ ((c.perform op).highestVersion subject).toNat := by
  cases op with
  | register v =>
    rw [highestVersion_register]
    split
    · exact Nat.le_max_left _ _
    · exact Nat.le_refl _
  | softDelete | permanentDelete => exact Nat.le_refl _

end Catalog

end SchemaRegistry
