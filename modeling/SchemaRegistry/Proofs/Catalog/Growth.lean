import SchemaRegistry.Proofs.Catalog.Order
/-!
# How the rows of a subject grow

The live rows of a subject are in the order of their numbers, and a registration gets a number above
all of them. So as long as nothing of the subject is deleted, its live rows only grow at their end,
whatever else is registered or deleted: what the rows were before is at the front of what they are
afterwards. A search that goes through them from the front comes to the same end as before, if it
came to one.
-/

set_option autoImplicit false

namespace SchemaRegistry

namespace Row

theorem not_isAmong_of_ne {subject other : Subject} {numbers : List UInt32} {row : Row}
    (apart : other ≠ subject) (hrow : row.version.subject = subject) :
    ¬ row.isAmong other numbers = true := by
  intro among
  exact apart ((isAmong_iff.mp among).1.symm.trans hrow)

/-! ## Inserting at the end -/

variable {p : Row → Bool} {row : Row} {rows : List Row}

/-- Rows of one subject do not change when a row of another is inserted. -/
theorem filter_insert_of_neg
    (h : ∀ other : Row, other.version.subject = row.version.subject → p other = false)
    (rows : List Row) : (row.insert rows).filter p = rows.filter p := by
  have hrow : ¬ p row = true := Bool.eq_false_iff.mp (h row rfl)
  induction rows with
  | nil => rw [insert, List.filter_cons_of_neg hrow]
  | cons first rest ih =>
    rw [insert]
    split
    · rw [List.filter_cons_of_neg hrow]
    · split
      · rename_i same
        have hsubject := (Version.key_eq_iff.mp (sameKey_iff.mp same)).1
        have hfirst : ¬ p first = true := Bool.eq_false_iff.mp (h first hsubject.symm)
        rw [List.filter_cons_of_neg hrow, List.filter_cons_of_neg hfirst]
      · rw [List.filter_cons, List.filter_cons, ih]

/-- A row behind all others of its kind comes last. -/
theorem filter_insert_of_last (ordered : InOrder rows) (hrow : p row = true)
    (last : ∀ other ∈ rows, p other = true → other.version.place < row.version.place) :
    (row.insert rows).filter p = rows.filter p ++ [row] := by
  -- No row of the kind is at the place of the new one or behind it.
  have none_behind : ∀ others : List Row, (∀ other ∈ others, other ∈ rows) →
      (∀ other ∈ others, row.version.place ≤ other.version.place) → others.filter p = [] := by
    intro others hmem behind
    rw [List.filter_eq_nil_iff]
    intro other hother hp
    exact absurd (last other (hmem other hother) hp) (not_lt.mpr (behind other hother))
  induction rows with
  | nil => rw [insert, List.filter_cons_of_pos hrow, List.filter_nil, List.nil_append]
  | cons first rest ih =>
    obtain ⟨hfirst, hrest⟩ := List.pairwise_cons.mp ordered
    rw [insert]
    split
    · rename_i before
      rw [isBefore_iff] at before
      have hnone := none_behind (first :: rest) (fun _ hother => hother) fun other hother => by
        rcases List.mem_cons.mp hother with rfl | hother
        · exact before.le
        · exact (before.trans (hfirst other hother)).le
      rw [List.filter_cons_of_pos hrow, hnone, List.nil_append]
    · split
      · rename_i same
        rw [sameKey_iff_place] at same
        have hnone := none_behind (first :: rest) (fun _ hother => hother) fun other hother => by
          rcases List.mem_cons.mp hother with rfl | hother
          · exact same.le
          · exact same.le.trans (hfirst other hother).le
        have hnone' : rest.filter p = [] :=
          none_behind rest (fun _ => List.mem_cons_of_mem first) fun other hother =>
            same.le.trans (hfirst other hother).le
        rw [List.filter_cons_of_pos hrow, hnone, hnone', List.nil_append]
      · have hrest' := ih hrest (fun other hother => last other (List.mem_cons_of_mem first hother))
          fun others hmem => none_behind others fun other hother =>
            List.mem_cons_of_mem first (hmem other hother)
        rw [List.filter_cons, List.filter_cons, hrest']
        split <;> rfl

end Row

namespace Catalog

variable {c : Catalog} {subject : Subject}

/-! ## Marks -/

/-- What holds of the empty catalog and is kept by operations, holds of the catalog of any log. -/
theorem ofEntries_induct {P : Catalog → Prop} (start : P empty)
    (step : ∀ (c : Catalog) (op : Op) (applied : Nat), P c → P { c.perform op with applied })
    (entries : List Entry) : P (ofEntries entries) := by
  have all : ∀ c : Catalog, P c → P (c.applyAll entries) := by
    induction entries with
    | nil => exact fun c hc => hc
    | cons entry rest ih =>
      intro c hc
      refine ih (c.apply entry) ?_
      rw [apply, applyAt]
      split
      · exact hc
      · exact step c entry.op entry.offset hc
  exact all empty start

/-- Whether no row has a number above the mark of its subject. -/
def Marked (c : Catalog) : Prop :=
  ∀ row ∈ c.rows,
    row.version.number.toNat ≤ (c.highestVersion row.version.subject).toNat

theorem Marked.perform (h : c.Marked) (op : Op) : (c.perform op).Marked := by
  intro row hrow
  rcases mem_rows_perform hrow with ⟨v, rfl, rfl⟩ | ⟨old, hold, hlive, -⟩
  · change v.number.toNat ≤ ((c.perform (.register v)).highestVersion v.subject).toNat
    rw [highestVersion_register, if_pos rfl]
    exact Nat.le_max_right _ _
  · obtain ⟨hsubject, hnumber, -⟩ := Version.content_of_live_eq hlive
    rw [hsubject, hnumber]
    exact (h old hold).trans (highestVersion_le_perform c op _)

theorem marked_ofEntries (entries : List Entry) : (ofEntries entries).Marked := by
  refine ofEntries_induct ?_ (fun c op _ h => h.perform op) entries
  intro row hrow
  cases hrow

/-! ## The rows of a subject -/

/-- An operation leaves the rows of other subjects as they are. -/
theorem rowsOf_perform_of_ne {op : Op} (h : op.subject ≠ subject) (includeDeleted : Bool) :
    (c.perform op).rowsOf subject includeDeleted = c.rowsOf subject includeDeleted := by
  cases op with
  | register v =>
    refine Row.filter_insert_of_neg (fun other hother => ?_) c.rows
    have foreign : other.version.subject ≠ subject := by
      intro own
      exact h (hother.symm.trans own)
    rw [beq_false_of_ne foreign, Bool.false_and]
  | softDelete other numbers =>
    have apart : other ≠ subject := h
    change (c.rows.map _).filter _ = c.rows.filter _
    induction c.rows with
    | nil => rfl
    | cons row rest ih =>
      rw [List.map_cons, List.filter_cons, List.filter_cons, ih]
      by_cases hrow : row.version.subject = subject
      · rw [if_neg (Row.not_isAmong_of_ne apart hrow)]
      · -- A mark leaves a row to its subject.
        have kept : (if row.isAmong other numbers then row.markDeleted else row).version.subject =
            row.version.subject := by
          split <;> rfl
        simp only [kept, beq_false_of_ne hrow, Bool.false_and, Bool.false_eq_true, if_false]
  -- What is removed belongs to another subject, and the filter for this one would have dropped it.
  | permanentDelete other numbers =>
    have apart : other ≠ subject := h
    change (c.rows.filter _).filter _ = c.rows.filter _
    rw [List.filter_filter]
    refine List.filter_congr fun row _ => ?_
    by_cases hrow : row.version.subject = subject
    · have untouched : row.isAmong other numbers = false :=
        Bool.eq_false_iff.mpr (Row.not_isAmong_of_ne apart hrow)
      simp [untouched]
    · simp [hrow]

/-- A live version above the mark becomes the last of its subject. -/
theorem rowsOf_register (sorted : c.Sorted) (marked : c.Marked) {v : Version}
    (live : v.isDeleted = false)
    (above : (c.highestVersion v.subject).toNat < v.number.toNat) :
    (c.perform (.register v)).rowsOf v.subject false =
      c.rowsOf v.subject false ++ [Row.ofVersion v] := by
  refine Row.filter_insert_of_last sorted ?_ fun other hother hkept => ?_
  · change (v.subject == v.subject && (false || v.isLive)) = true
    rw [beq_self_eq_true, Version.isLive, live]
    rfl
  · rw [Bool.and_eq_true, beq_iff_eq] at hkept
    have hle := marked other hother
    rw [hkept.1] at hle
    change toLex (other.version.subject.place, other.version.number.toNat) <
      toLex (v.subject.place, v.number.toNat)
    rw [Prod.Lex.toLex_lt_toLex, hkept.1]
    exact Or.inr ⟨rfl, hle.trans_lt above⟩

/-- Whether an operation deletes nothing of a subject, and registers nothing under it but live
versions above its mark. -/
def Spares (c : Catalog) (subject : Subject) : Op → Prop
  | .register v =>
    v.subject = subject → v.isDeleted = false ∧ (c.highestVersion subject).toNat < v.number.toNat
  | .softDelete other _ | .permanentDelete other _ => other ≠ subject

/-- The live rows of a subject grow at their end. -/
theorem rowsOf_prefix_perform (sorted : c.Sorted) (marked : c.Marked) {op : Op}
    (spares : c.Spares subject op) :
    c.rowsOf subject false <+: (c.perform op).rowsOf subject false := by
  by_cases hop : op.subject = subject
  · cases op with
    | register v =>
      obtain ⟨live, above⟩ := spares hop
      have hv : v.subject = subject := hop
      subst hv
      rw [rowsOf_register sorted marked live above]
      exact List.prefix_append _ _
    | softDelete | permanentDelete => exact absurd hop spares
  · have same : (c.perform op).rowsOf subject false = c.rowsOf subject false :=
      rowsOf_perform_of_ne hop false
    exact same ▸ List.prefix_rfl

end Catalog

end SchemaRegistry
