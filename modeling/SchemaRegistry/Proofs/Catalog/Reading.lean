import SchemaRegistry.Catalog.References
import SchemaRegistry.Proofs.Catalog.Rows
/-!
# What is read from a catalog, in terms of its rows

The readers of a catalog filter its rows and take something of what is left. Each is described here
by the rows that it goes back to, so that arguments about plans never open a reader: a version is
found under a key exactly if a row has that key, and a reference is resolved exactly if it can mean
something, its subject is a name, and the version that it names has a row.
-/

set_option autoImplicit false

namespace SchemaRegistry.Catalog

/-- Whether some row has the key. -/
def Stores (c : Catalog) (key : Subject × UInt32) : Prop :=
  ∃ row ∈ c.rows, row.version.key = key

/-- A version stays stored unless it is removed for good. -/
theorem Stores.perform {c : Catalog} {subject : Subject} {n : UInt32} {op : Op}
    (h : c.Stores (subject, n))
    (kept : ∀ numbers, op = .permanentDelete subject numbers → n ∉ numbers) :
    (c.perform op).Stores (subject, n) := by
  obtain ⟨row, hrow, hkey⟩ := h
  by_cases registered : ∃ v, op = .register v ∧ v.key = (subject, n)
  · obtain ⟨v, rfl, hv⟩ := registered
    exact ⟨Row.ofVersion v, Row.mem_insert_self _ _, hv⟩
  · obtain ⟨new, hnew, hlive⟩ := exists_mem_rows_perform hrow
      (fun v hop hv => registered ⟨v, hop, hv.trans hkey⟩) fun other numbers hop => by
        rw [Bool.eq_false_iff]
        intro among
        obtain ⟨hsubject, hnumber⟩ := Row.isAmong_iff.mp among
        rw [Version.key, Prod.mk.injEq] at hkey
        rw [hkey.1] at hsubject
        subst hsubject
        exact kept numbers hop (hkey.2 ▸ hnumber)
    exact ⟨new, hnew, (congrArg Version.key hlive).trans hkey⟩

/-! ## Versions -/

theorem mem_versions_iff {c : Catalog} {subject : Subject} {includeDeleted : Bool} {v : Version} :
    v ∈ c.versions subject includeDeleted ↔
      (∃ row ∈ c.rows, row.version = v) ∧ v.subject = subject ∧
        (includeDeleted = true ∨ v.isLive = true) := by
  rw [versions, List.mem_map]
  constructor
  · rintro ⟨row, hrow, rfl⟩
    rw [rowsOf, List.mem_filter, Bool.and_eq_true, beq_iff_eq, Bool.or_eq_true] at hrow
    exact ⟨⟨row, hrow.1, rfl⟩, hrow.2⟩
  · rintro ⟨⟨row, hrow, rfl⟩, hsubject, hkept⟩
    refine ⟨row, ?_, rfl⟩
    rw [rowsOf, List.mem_filter, Bool.and_eq_true, beq_iff_eq, Bool.or_eq_true]
    exact ⟨hrow, hsubject, hkept⟩

theorem get?_eq_some {c : Catalog} {subject : Subject} {number : UInt32} {v : Version}
    (h : c.get? subject number = some v) :
    v.key = (subject, number) ∧ ∃ row ∈ c.rows, row.version = v := by
  have hv := mem_versions_iff.mp (List.mem_of_find?_eq_some h)
  have hnumber := List.find?_some h
  rw [beq_iff_eq] at hnumber
  exact ⟨by rw [Version.key, hv.2.1, hnumber], hv.1⟩

theorem isSome_get?_iff {c : Catalog} {subject : Subject} {number : UInt32} :
    (c.get? subject number).isSome = true ↔ c.Stores (subject, number) := by
  constructor
  · intro h
    obtain ⟨v, hv⟩ := Option.isSome_iff_exists.mp h
    obtain ⟨hkey, row, hrow, rfl⟩ := get?_eq_some hv
    exact ⟨row, hrow, hkey⟩
  · rintro ⟨row, hrow, hkey⟩
    rw [Version.key, Prod.mk.injEq] at hkey
    rw [get?, List.find?_isSome]
    refine ⟨row.version, mem_versions_iff.mpr ⟨⟨row, hrow, rfl⟩, hkey.1, Or.inl rfl⟩, ?_⟩
    exact beq_iff_eq.mpr hkey.2

/-- There is a subject at all, deleted or not, if some row is of it. -/
theorem hasSubject_true_iff {c : Catalog} {subject : Subject} :
    c.hasSubject subject true = true ↔ ∃ row ∈ c.rows, row.version.subject = subject := by
  rw [hasSubject, Bool.not_eq_true', List.isEmpty_eq_false_iff_exists_mem]
  constructor
  · rintro ⟨v, hv⟩
    obtain ⟨⟨row, hrow, rfl⟩, own, -⟩ := mem_versions_iff.mp hv
    exact ⟨row, hrow, own⟩
  · rintro ⟨row, hrow, own⟩
    exact ⟨row.version, mem_versions_iff.mpr ⟨⟨row, hrow, rfl⟩, own, Or.inl rfl⟩⟩

/-! ## References -/

theorem mem_referencedBy_iff {c : Catalog} {subject : Subject} {number : UInt32} {v : Version} :
    v ∈ c.referencedBy subject number ↔
      (∃ row ∈ c.rows, row.version = v) ∧ v.subject ≠ subject ∧
        ∃ r ∈ v.references, r.subject = subject.rendered ∧ r.version = number := by
  simp only [referencedBy, refersTo, List.mem_filter, List.mem_map, Bool.and_eq_true,
    decide_eq_true_eq, List.any_eq_true, beq_iff_eq]

/-- What a resolved reference goes back to: a subject of the tenant that stores the version, whose
name the reference now carries. -/
theorem resolveReference_eq_ok {c : Catalog} {tenant : String} {r resolved : Reference}
    (h : c.resolveReference tenant r = .ok resolved) :
    ∃ subject, Subject.resolve tenant r.subject = .ok subject ∧
      resolved = { r with subject := subject.rendered } ∧ r.check = .ok () ∧
      c.Stores (subject, r.version) := by
  rw [resolveReference] at h
  split at h
  · cases h
  · rename_i hcheck
    split at h
    · cases h
    · rename_i subject hsubject
      split at h
      · rename_i hstored
        cases h
        exact ⟨subject, hsubject, rfl, hcheck, isSome_get?_iff.mp hstored⟩
      · cases h

/-- Every reference of a resolved list is one of the list that was given, resolved. -/
theorem exists_of_mem_resolve {c : Catalog} {tenant : String} {given resolved : List Reference}
    (h : c.resolve tenant given = .ok resolved) {r : Reference} (hr : r ∈ resolved) :
    ∃ r₀ ∈ given, c.resolveReference tenant r₀ = .ok r := by
  rw [resolve] at h
  induction given generalizing resolved with
  | nil =>
    cases h
    cases hr
  | cons first rest ih =>
    rw [List.mapM_cons] at h
    cases hfirst : c.resolveReference tenant first with
    | error e =>
      rw [hfirst] at h
      cases h
    | ok first' =>
      cases hrest : rest.mapM (c.resolveReference tenant) with
      | error e =>
        rw [hfirst, hrest] at h
        cases h
      | ok rest' =>
        rw [hfirst, hrest] at h
        cases h
        rcases List.mem_cons.mp hr with rfl | hr
        · exact ⟨first, List.mem_cons_self, hfirst⟩
        · obtain ⟨r₀, hr₀, h₀⟩ := ih hrest hr
          exact ⟨r₀, List.mem_cons_of_mem _ hr₀, h₀⟩

end SchemaRegistry.Catalog
