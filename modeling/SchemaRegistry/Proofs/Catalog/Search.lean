import SchemaRegistry.Proofs.Catalog.Reading
/-!
# What a search by fingerprint comes to

A search goes through rows and compares the fingerprints that they carry. What it finds is told here
in terms of the stored versions: the fingerprints that a row carries are those of its version, in
every catalog that a log leads to, so a version that is found has the fingerprint that was wanted,
and if none is found then no version has it.
-/

set_option autoImplicit false

namespace SchemaRegistry

/-! ## The fingerprints of a row -/

namespace Row

/-- Whether the row carries the fingerprints of its version. -/
def Faithful (row : Row) : Prop :=
  row.prints = Prints.ofVersion? row.version

theorem Faithful.print {row : Row} (h : row.Faithful) {f : Fidelity} {wanted : Fingerprint}
    (found : row.print f = .ok wanted) : row.version.fingerprint f = .ok wanted := by
  rw [Row.print, h, Prints.ofVersion?] at found
  cases hraw : row.version.fingerprint .raw with
  | error e =>
    rw [hraw] at found
    cases found
  | ok raw =>
    cases hnormalized : row.version.fingerprint .normalized with
    | error e =>
      rw [hraw, hnormalized] at found
      cases found
    | ok normalized =>
      rw [hraw, hnormalized] at found
      cases f with
      | raw =>
        cases found
        exact hraw
      | normalized =>
        cases found
        exact hnormalized

/-! ## Searching rows -/

/-- A search stops at the first row that has the fingerprint. -/
theorem exists_split_of_firstMatch {wanted : Fingerprint} {f : Fidelity} {rows : List Row}
    {v : Version} (h : firstMatch wanted f rows = .ok (some v)) :
    ∃ front row back, rows = front ++ row :: back ∧ row.version = v ∧ row.print f = .ok wanted ∧
      ∀ other ∈ front, ∃ print, other.print f = .ok print ∧ print ≠ wanted := by
  induction rows with
  | nil => simp [firstMatch] at h
  | cons row rest ih =>
    rw [firstMatch] at h
    rcases hprint : row.print f with e | print
    · simp [hprint] at h
    · by_cases same : print = wanted
      · simp only [hprint, same, if_true, Except.ok.injEq, Option.some.injEq] at h
        exact ⟨[], row, rest, rfl, h, by rw [hprint, same], by simp⟩
      · simp only [hprint, same, if_false] at h
        obtain ⟨front, found, back, rfl, hversion, hfound, hfront⟩ := ih h
        refine ⟨row :: front, found, back, rfl, hversion, hfound, ?_⟩
        intro other hother
        rcases List.mem_cons.mp hother with rfl | hother
        · exact ⟨print, hprint, same⟩
        · exact hfront other hother

theorem mem_of_firstMatch {wanted : Fingerprint} {f : Fidelity} {rows : List Row} {v : Version}
    (h : firstMatch wanted f rows = .ok (some v)) :
    ∃ row ∈ rows, row.version = v ∧ row.print f = .ok wanted := by
  obtain ⟨front, row, back, rfl, hversion, hprint, -⟩ := exists_split_of_firstMatch h
  exact ⟨row, by simp, hversion, hprint⟩

/-- A search that finds nothing has compared every row. -/
theorem print_ne_of_firstMatch {wanted : Fingerprint} {f : Fidelity} {rows : List Row}
    (h : firstMatch wanted f rows = .ok none) {row : Row} (hrow : row ∈ rows) :
    ∃ print, row.print f = .ok print ∧ print ≠ wanted := by
  induction rows with
  | nil => cases hrow
  | cons first rest ih =>
    unfold firstMatch at h
    cases hprint : first.print f with
    | error e =>
      rw [hprint] at h
      cases h
    | ok print =>
      rw [hprint] at h
      dsimp only at h
      split at h
      · cases h
      · rename_i different
        rcases List.mem_cons.mp hrow with rfl | hrow
        · exact ⟨print, hprint, different⟩
        · exact ih h hrow

end Row

namespace Catalog

/-! ## Catalogs with the fingerprints of their versions -/

/-- Whether every row carries the fingerprints of its version. -/
def Faithful (c : Catalog) : Prop :=
  ∀ row ∈ c.rows, row.Faithful

/-- A row gets its prints when its version is registered, and a mark of deletion changes neither. -/
theorem Faithful.perform {c : Catalog} (h : c.Faithful) (op : Op) : (c.perform op).Faithful := by
  intro row hrow
  cases op with
  | register v =>
    rcases Row.eq_or_mem_of_mem_insert hrow with rfl | hrow
    · rfl
    · exact h row hrow
  | softDelete subject numbers =>
    obtain ⟨old, hold, rfl⟩ := List.mem_map.mp hrow
    -- The mark of deletion is no part of what a fingerprint is taken of.
    split
    · exact h old hold
    · exact h old hold
  | permanentDelete subject numbers => exact h row (List.mem_filter.mp hrow).1

/-- Every row that came from a log has the prints that its version gives. -/
theorem faithful_ofEntries (entries : List Entry) : (ofEntries entries).Faithful := by
  have step : ∀ {c : Catalog}, c.Faithful → ∀ entry, (c.apply entry).Faithful := by
    intro c hc entry
    unfold apply applyAt
    split
    · exact hc
    · exact hc.perform entry.op
  have all : ∀ {c : Catalog}, c.Faithful → (c.applyAll entries).Faithful := by
    induction entries with
    | nil => exact fun hc => hc
    | cons entry rest ih => exact fun hc => ih (step hc entry)
  refine all fun row hrow => ?_
  cases hrow

/-! ## Searching catalogs -/

/-- A version that is found under a subject is one of its versions, and has the fingerprint of the
candidate. -/
theorem Faithful.of_find {c : Catalog} (h : c.Faithful) {subject : Subject} {candidate : Candidate}
    {f : Fidelity} {includeDeleted : Bool} {v : Version}
    (found : c.find subject candidate f includeDeleted = .ok (.found v)) :
    v ∈ c.versions subject includeDeleted ∧
      ∃ wanted, candidate.fingerprint f = .ok wanted ∧ v.fingerprint f = .ok wanted := by
  unfold find at found
  cases hwanted : candidate.fingerprint f with
  | error e =>
    rw [hwanted] at found
    cases found
  | ok wanted =>
    rw [hwanted] at found
    dsimp only at found
    split at found
    · cases found
    · cases hmatch : Row.firstMatch wanted f (c.rowsOf subject includeDeleted) with
      | error e =>
        rw [hmatch] at found
        cases found
      | ok result =>
        rw [hmatch] at found
        cases result with
        | none => cases found
        | some w =>
          cases found
          obtain ⟨row, hrow, rfl, hprint⟩ := Row.mem_of_firstMatch hmatch
          have stored : row ∈ c.rows := (List.mem_filter.mp hrow).1
          exact ⟨List.mem_map_of_mem hrow, wanted, rfl, (h row stored).print hprint⟩

/-- An id that is found is that of a stored version with the fingerprint. -/
theorem Faithful.of_findId {c : Catalog} (h : c.Faithful) {wanted : Fingerprint} {id : Int64}
    (found : c.findId wanted = .ok (some id)) :
    ∃ row ∈ c.rows, row.version.id = id ∧ row.version.fingerprint .raw = .ok wanted := by
  unfold findId at found
  cases hmatch : Row.firstMatch wanted .raw c.rows with
  | error e =>
    rw [hmatch] at found
    cases found
  | ok result =>
    rw [hmatch] at found
    cases result with
    | none => cases found
    | some v =>
      cases found
      obtain ⟨row, hrow, rfl, hprint⟩ := Row.mem_of_firstMatch hmatch
      exact ⟨row, hrow, rfl, (h row hrow).print hprint⟩

/-- If no id is found, every stored version has another fingerprint. -/
theorem Faithful.of_findId_none {c : Catalog} (h : c.Faithful) {wanted : Fingerprint}
    (found : c.findId wanted = .ok none) {row : Row} (hrow : row ∈ c.rows) :
    row.version.fingerprint .raw ≠ .ok wanted := by
  unfold findId at found
  cases hmatch : Row.firstMatch wanted .raw c.rows with
  | error e =>
    rw [hmatch] at found
    cases found
  | ok result =>
    rw [hmatch] at found
    cases result with
    | some v => cases found
    | none =>
      obtain ⟨print, hprint, different⟩ := Row.print_ne_of_firstMatch hmatch hrow
      rw [(h row hrow).print hprint]
      intro same
      exact different (Except.ok.inj same)

end Catalog

end SchemaRegistry
