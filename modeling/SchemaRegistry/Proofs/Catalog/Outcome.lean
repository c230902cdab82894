import SchemaRegistry.Proofs.Catalog.Again
import SchemaRegistry.Proofs.Catalog.Lifecycle
/-!
# What every outcome of a search says

A search goes through versions from the front, reads each, and stops at the first that is equal or
that cannot be read. How versions are read is left open in `Version.firstMatch`; to read one anew is
to take its fingerprint from its format, its text and its references. Rows carry fingerprints so
that nothing has to be read anew, and since they carry those of their versions, a search comes to
the same with and without them. Here a version counts as readable if it has the fingerprint that is
asked for, while a row carries either both or none: a schema that can be read raw can be read
normalized as well.

The outcomes of a search exclude each other, and for each it is said exactly when the search comes
to it.
-/

set_option autoImplicit false

namespace SchemaRegistry

/-! ## Searching versions -/

namespace Version

/-- What is said of a version that cannot be read. -/
def unreadable (v : Version) : Error :=
  let key := versionText v.subject v.number
  .internal s!"Stored schema {key} is unreadable"

/-- The fingerprint of a version, taken anew. -/
def readAnew (f : Fidelity) (v : Version) : Except Error Fingerprint :=
  match v.fingerprint f with
  | .ok print => .ok print
  | .error _ => .error v.unreadable

/-- The first version of a fingerprint, for a way to read versions. -/
def firstMatch (read : Version → Except Error Fingerprint) (wanted : Fingerprint) :
    List Version → Except Error (Option Version)
  | [] => .ok none
  | v :: rest =>
    match read v with
    | .error e => .error e
    | .ok print => if print = wanted then .ok (some v) else firstMatch read wanted rest

section FirstMatch

variable {read : Version → Except Error Fingerprint} {wanted : Fingerprint} {vs : List Version}

/-- Whether the version is read, and is not equal. -/
def PassedBy (read : Version → Except Error Fingerprint) (wanted : Fingerprint) (v : Version) :
    Prop :=
  ∃ print, read v = .ok print ∧ print ≠ wanted

theorem firstMatch_append_of_passedBy {front : List Version}
    (passed : ∀ v ∈ front, PassedBy read wanted v) (rest : List Version) :
    firstMatch read wanted (front ++ rest) = firstMatch read wanted rest := by
  induction front with
  | nil => rfl
  | cons v front ih =>
    obtain ⟨⟨print, hprint, different⟩, others⟩ := List.forall_mem_cons.mp passed
    rw [List.cons_append, firstMatch, hprint]
    dsimp only
    rw [if_neg different, ih others]

/-- A search passes all versions by, or stops at one. -/
theorem passedBy_or_stops (read : Version → Except Error Fingerprint) (wanted : Fingerprint)
    (vs : List Version) :
    (∀ v ∈ vs, PassedBy read wanted v) ∨ ∃ front v back, vs = front ++ v :: back ∧
      (∀ w ∈ front, PassedBy read wanted w) ∧ (read v = .ok wanted ∨ ∃ e, read v = .error e) := by
  induction vs with
  | nil => exact Or.inl fun v hv => absurd hv List.not_mem_nil
  | cons v rest ih =>
    cases hv : read v with
    | error e => exact Or.inr ⟨[], v, rest, rfl, nofun, Or.inr ⟨e, hv⟩⟩
    | ok print =>
      by_cases same : print = wanted
      · exact Or.inr ⟨[], v, rest, rfl, nofun, Or.inl (same ▸ hv)⟩
      · have first : PassedBy read wanted v := ⟨print, hv, same⟩
        rcases ih with others | ⟨front, w, back, rfl, hfront, stops⟩
        · exact Or.inl (List.forall_mem_cons.mpr ⟨first, others⟩)
        · exact Or.inr ⟨v :: front, w, back, rfl, List.forall_mem_cons.mpr ⟨first, hfront⟩, stops⟩

/-- Nothing is found only when every version has been read and passed by. -/
theorem firstMatch_eq_none_iff :
    firstMatch read wanted vs = .ok none ↔ ∀ v ∈ vs, PassedBy read wanted v := by
  constructor
  · intro h
    rcases passedBy_or_stops read wanted vs with passed | ⟨front, v, back, rfl, hfront, stops⟩
    · exact passed
    · rw [firstMatch_append_of_passedBy hfront, firstMatch] at h
      rcases stops with found | ⟨e, unread⟩
      · simp [found] at h
      · simp [unread] at h
  · intro passed
    have all := firstMatch_append_of_passedBy passed []
    rw [List.append_nil] at all
    exact all

/-- What is found is equal, and every version in front of it has been passed by. Nothing is said of
those behind it, which are not even read. -/
theorem firstMatch_eq_some_iff {v : Version} :
    firstMatch read wanted vs = .ok (some v) ↔ ∃ front back, vs = front ++ v :: back ∧
      (∀ w ∈ front, PassedBy read wanted w) ∧ read v = .ok wanted := by
  constructor
  · intro h
    rcases passedBy_or_stops read wanted vs with passed | ⟨front, w, back, rfl, hfront, stops⟩
    · rw [firstMatch_eq_none_iff.mpr passed] at h
      cases h
    · rw [firstMatch_append_of_passedBy hfront, firstMatch] at h
      rcases stops with found | ⟨e, unread⟩
      · simp only [found, if_true, Except.ok.injEq, Option.some.injEq] at h
        subst h
        exact ⟨front, back, rfl, hfront, found⟩
      · simp [unread] at h
  · rintro ⟨front, back, rfl, hfront, found⟩
    rw [firstMatch_append_of_passedBy hfront, firstMatch, found]
    dsimp only
    rw [if_pos rfl]

/-- The search fails at the first version that cannot be read, if none in front of it was equal. -/
theorem firstMatch_eq_error_iff {e : Error} :
    firstMatch read wanted vs = .error e ↔ ∃ front v back, vs = front ++ v :: back ∧
      (∀ w ∈ front, PassedBy read wanted w) ∧ read v = .error e := by
  constructor
  · intro h
    rcases passedBy_or_stops read wanted vs with passed | ⟨front, v, back, rfl, hfront, stops⟩
    · rw [firstMatch_eq_none_iff.mpr passed] at h
      cases h
    · rw [firstMatch_append_of_passedBy hfront, firstMatch] at h
      rcases stops with found | ⟨e', unread⟩
      · simp [found] at h
      · simp only [unread, Except.error.injEq] at h
        subst h
        exact ⟨front, v, back, rfl, hfront, unread⟩
  · rintro ⟨front, v, back, rfl, hfront, unread⟩
    rw [firstMatch_append_of_passedBy hfront, firstMatch, unread]

end FirstMatch

end Version

/-! ## Searching catalogs -/

/-- What a search that has gone through the versions of a subject comes to. -/
def Lookup.ofMatch : Option Version → Lookup
  | some version => .found version
  | none => .noMatch

/-- A lookup tells no less than the search it stands for, so an outcome of the one is that of the
other. -/
theorem Lookup.map_ofMatch_injective :
    Function.Injective (Except.map Lookup.ofMatch : _ → Except Error Lookup) := by
  rintro (e | (_ | v)) (e' | (_ | v')) h <;> cases h <;> rfl

namespace Catalog

/-- The first version of a subject that is equal to a candidate, for a way to read versions. -/
def findBy (c : Catalog) (read : Fidelity → Version → Except Error Fingerprint) (subject : Subject)
    (candidate : Candidate) (f : Fidelity) (includeDeleted : Bool) : Except Error Lookup :=
  match candidate.fingerprint f with
  | .error e => .error e
  | .ok wanted =>
    match c.versions subject includeDeleted with
    | [] => .ok .noSubject
    | versions => (Version.firstMatch (read f) wanted versions).map .ofMatch

/-- The id of the schema of a raw fingerprint, for a way to read versions. -/
def findIdBy (c : Catalog) (read : Fidelity → Version → Except Error Fingerprint)
    (wanted : Fingerprint) : Except Error (Option Int64) :=
  (Version.firstMatch (read .raw) wanted (c.rows.map (·.version))).map fun found => found.map (·.id)

end Catalog

/-- The search through rows is that through their versions, where the prints on the rows are those
that reading gives. -/
theorem Row.firstMatch_eq {read : Version → Except Error Fingerprint} {wanted : Fingerprint}
    {f : Fidelity} {rows : List Row} (reads : ∀ row ∈ rows, row.print f = read row.version) :
    Row.firstMatch wanted f rows = Version.firstMatch read wanted (rows.map (·.version)) := by
  induction rows with
  | nil => rfl
  | cons row rest ih =>
    obtain ⟨first, others⟩ := List.forall_mem_cons.mp reads
    cases hread : read row.version with
    | error e => simp only [List.map_cons, firstMatch, Version.firstMatch, first, hread]
    | ok print => simp only [List.map_cons, firstMatch, Version.firstMatch, first, hread, ih others]

/-- A row that carries the fingerprints of its version is read as the version is read anew. -/
theorem Row.Faithful.print_eq_readAnew {row : Row} (h : row.Faithful) (f : Fidelity) :
    row.print f = row.version.readAnew f := by
  cases hread : row.version.fingerprint f with
  | ok print => rw [h.print_eq hread, Version.readAnew, hread]
  | error e =>
    -- What cannot be read in one way can be read in neither, so the row carries nothing.
    have nothing : row.prints = none := by
      cases hprints : row.prints with
      | none => rfl
      | some prints =>
        have carried : row.print f = .ok (prints.at f) := by rw [Row.print, hprints]
        rw [h.print carried] at hread
        cases hread
    rw [Row.print, nothing, Version.readAnew, hread]
    rfl

namespace Catalog

variable {c : Catalog}

/-- If rows are read as their versions, a search does not need what they carry. -/
theorem find_eq_findBy {read : Fidelity → Version → Except Error Fingerprint}
    (reads : ∀ row ∈ c.rows, ∀ f, row.print f = read f row.version) (subject : Subject)
    (candidate : Candidate) (f : Fidelity) (includeDeleted : Bool) :
    c.find subject candidate f includeDeleted =
      c.findBy read subject candidate f includeDeleted := by
  rw [find, findBy]
  cases candidate.fingerprint f with
  | error e => rfl
  | ok wanted =>
    have searched : Row.firstMatch wanted f (c.rowsOf subject includeDeleted) =
        Version.firstMatch (read f) wanted ((c.rowsOf subject includeDeleted).map (·.version)) :=
      Row.firstMatch_eq fun row hrow => reads row (List.mem_filter.mp hrow).1 f
    rw [versions]
    cases hrows : c.rowsOf subject includeDeleted with
    | nil => rfl
    | cons row rest =>
      rw [hrows] at searched
      dsimp only
      rw [searched]
      rfl

/-- The search for an id reads the same versions with the same early exit, whether it looks at the
prints on the rows or reads anew. -/
theorem findId_eq_findIdBy {read : Fidelity → Version → Except Error Fingerprint}
    (reads : ∀ row ∈ c.rows, ∀ f, row.print f = read f row.version) (wanted : Fingerprint) :
    c.findId wanted = c.findIdBy read wanted := by
  rw [findId, findIdBy, Row.firstMatch_eq fun row hrow => reads row hrow .raw]

end Catalog

/-! ## The outcomes -/

/-- Whether the version has another fingerprint. -/
def Version.Differs (f : Fidelity) (wanted : Fingerprint) (v : Version) : Prop :=
  ∃ print, v.fingerprint f = .ok print ∧ print ≠ wanted

namespace Version

variable {v : Version} {f : Fidelity} {wanted print : Fingerprint} {e : Error}

theorem readAnew_eq_ok_iff : v.readAnew f = .ok print ↔ v.fingerprint f = .ok print := by
  rw [readAnew]
  cases v.fingerprint f with
  | ok other => exact Iff.rfl
  | error e => exact ⟨nofun, nofun⟩

/-- A version that cannot be read gives one error, whatever is wrong with its text: the error names
the version and not the flaw. -/
theorem readAnew_eq_error_iff :
    v.readAnew f = .error e ↔ (∃ d, v.fingerprint f = .error d) ∧ e = v.unreadable := by
  rw [readAnew]
  cases v.fingerprint f with
  | ok other => exact ⟨nofun, fun h => nomatch h.1⟩
  | error d =>
    constructor
    · intro h
      cases h
      exact ⟨⟨d, rfl⟩, rfl⟩
    · rintro ⟨-, rfl⟩
      rfl

theorem passedBy_readAnew_iff : PassedBy (readAnew f) wanted v ↔ v.Differs f wanted :=
  exists_congr fun _ => and_congr_left' readAnew_eq_ok_iff

variable {vs : List Version}

/-- What the search says of versions read anew, in terms of their fingerprints alone. -/
theorem firstMatch_readAnew_eq_none_iff :
    firstMatch (readAnew f) wanted vs = .ok none ↔ ∀ w ∈ vs, w.Differs f wanted := by
  simp only [firstMatch_eq_none_iff, passedBy_readAnew_iff]

theorem firstMatch_readAnew_eq_some_iff :
    firstMatch (readAnew f) wanted vs = .ok (some v) ↔ ∃ front back, vs = front ++ v :: back ∧
      (∀ w ∈ front, w.Differs f wanted) ∧ v.fingerprint f = .ok wanted := by
  simp only [firstMatch_eq_some_iff, passedBy_readAnew_iff, readAnew_eq_ok_iff]

/-- The error of a search names the first version without a fingerprint, as long as none in front of
it is equal. -/
theorem firstMatch_readAnew_eq_error_iff :
    firstMatch (readAnew f) wanted vs = .error e ↔ ∃ front v back, vs = front ++ v :: back ∧
      (∀ w ∈ front, w.Differs f wanted) ∧ (∃ d, v.fingerprint f = .error d) ∧
      e = v.unreadable := by
  simp only [firstMatch_eq_error_iff, passedBy_readAnew_iff, readAnew_eq_error_iff]

end Version

/-- A text that is no schema is an invalid one. -/
theorem canonicalize_error {format : Format} {text : String} {f : Fidelity} {e : Error}
    (h : canonicalize format text f = .error e) : ∃ message, e = .invalidSchema message := by
  unfold canonicalize Canonical.ofLines Canonical.ofJsonText at h
  split at h
  · cases h
    exact ⟨_, rfl⟩
  · cases format <;> dsimp only at h <;> split at h <;> cases h <;> exact ⟨_, rfl⟩

/-- A candidate has no fingerprint for the one reason that its text has no canonical form. -/
theorem Candidate.fingerprint_error {candidate : Candidate} {f : Fidelity} {e : Error}
    (h : candidate.fingerprint f = .error e) :
    canonicalize candidate.format candidate.text f = .error e := by
  rw [Candidate.fingerprint, SchemaRegistry.fingerprint] at h
  cases hcanonical : canonicalize candidate.format candidate.text f with
  | ok canonical =>
    rw [hcanonical] at h
    cases h
  | error d =>
    rw [hcanonical] at h
    cases h
    rfl

/-- What each outcome of the searches in a catalog says. -/
structure Searches (c : Catalog) : Prop where
  ascending : ∀ subject includeDeleted,
    (c.versions subject includeDeleted).Pairwise fun v w => v.number < w.number
  inOrder : (c.rows.map (·.version)).Pairwise fun v w => v.place < w.place
  /-- A candidate that cannot be read is refused before its subject is looked for, and a version
  that cannot be read only when it is met before one that is equal. -/
  refused : ∀ subject candidate f includeDeleted e,
    c.find subject candidate f includeDeleted = .error e ↔
      candidate.fingerprint f = .error e ∨
      ∃ wanted front v back, candidate.fingerprint f = .ok wanted ∧
        c.versions subject includeDeleted = front ++ v :: back ∧
        (∀ w ∈ front, w.Differs f wanted) ∧ (∃ d, v.fingerprint f = .error d) ∧ e = v.unreadable
  invalid : ∀ (candidate : Candidate) f e, candidate.fingerprint f = .error e →
    ∃ message, e = .invalidSchema message
  noSubject : ∀ subject candidate f includeDeleted,
    c.find subject candidate f includeDeleted = .ok .noSubject ↔
      ∃ wanted, candidate.fingerprint f = .ok wanted ∧ c.versions subject includeDeleted = []
  noMatch : ∀ subject candidate f includeDeleted,
    c.find subject candidate f includeDeleted = .ok .noMatch ↔
      ∃ wanted, candidate.fingerprint f = .ok wanted ∧ c.versions subject includeDeleted ≠ [] ∧
        ∀ v ∈ c.versions subject includeDeleted, v.Differs f wanted
  found : ∀ subject candidate f includeDeleted v,
    c.find subject candidate f includeDeleted = .ok (.found v) ↔
      ∃ wanted front back, candidate.fingerprint f = .ok wanted ∧
        c.versions subject includeDeleted = front ++ v :: back ∧
        (∀ w ∈ front, w.Differs f wanted) ∧ v.fingerprint f = .ok wanted
  noId : ∀ wanted, c.findId wanted = .ok none ↔ ∀ row ∈ c.rows, row.version.Differs .raw wanted
  foundId : ∀ wanted id, c.findId wanted = .ok (some id) ↔
    ∃ front v back, c.rows.map (·.version) = front ++ v :: back ∧
      (∀ w ∈ front, w.Differs .raw wanted) ∧ v.fingerprint .raw = .ok wanted ∧ v.id = id
  unreadId : ∀ wanted e, c.findId wanted = .error e ↔
    ∃ front v back, c.rows.map (·.version) = front ++ v :: back ∧
      (∀ w ∈ front, w.Differs .raw wanted) ∧ (∃ d, v.fingerprint .raw = .error d) ∧
      e = v.unreadable

namespace Catalog

variable {c : Catalog} {subject : Subject} {candidate : Candidate} {f : Fidelity}
  {includeDeleted : Bool} {wanted : Fingerprint}

/-- A search under a subject refuses the candidate, finds no versions, or goes through them. -/
theorem Faithful.find_eq_iff (h : c.Faithful) {outcome : Except Error Lookup} :
    c.find subject candidate f includeDeleted = outcome ↔
      (∃ e, candidate.fingerprint f = .error e ∧ outcome = .error e) ∨
      ∃ wanted, candidate.fingerprint f = .ok wanted ∧
        (c.versions subject includeDeleted = [] ∧ outcome = .ok .noSubject ∨
          c.versions subject includeDeleted ≠ [] ∧ ∃ found,
            Version.firstMatch (Version.readAnew f) wanted (c.versions subject includeDeleted) =
              found ∧ outcome = found.map .ofMatch) := by
  -- The prints kept in the rows are those read anew, so the search by rows is the search by
  -- versions.
  rw [find_eq_findBy fun row hrow => (h row hrow).print_eq_readAnew, findBy]
  cases candidate.fingerprint f with
  | error e =>
    constructor
    · rintro rfl
      exact Or.inl ⟨e, rfl, rfl⟩
    · rintro (⟨_, same, rfl⟩ | ⟨_, same, -⟩)
      · cases same
        rfl
      · cases same
  | ok wanted =>
    cases c.versions subject includeDeleted with
    | nil =>
      constructor
      · rintro rfl
        exact Or.inr ⟨wanted, rfl, Or.inl ⟨rfl, rfl⟩⟩
      · rintro (⟨_, same, -⟩ | ⟨_, -, ⟨-, rfl⟩ | ⟨some, -⟩⟩)
        · cases same
        · rfl
        · exact absurd rfl some
    | cons v rest =>
      constructor
      · rintro rfl
        exact Or.inr ⟨wanted, rfl, Or.inr ⟨List.cons_ne_nil v rest, _, rfl, rfl⟩⟩
      · rintro (⟨_, same, -⟩ | ⟨_, same, ⟨none, -⟩ | ⟨-, _, rfl, rfl⟩⟩)
        · cases same
        · cases none
        · cases same
          rfl

/-- With prints that say what reading anew would say, the search for an id is the search through the
versions. -/
theorem Faithful.findId_eq (h : c.Faithful) (wanted : Fingerprint) :
    c.findId wanted = (Version.firstMatch (Version.readAnew .raw) wanted
      (c.rows.map (·.version))).map fun found => found.map (·.id) :=
  findId_eq_findIdBy (fun row hrow => (h row hrow).print_eq_readAnew) wanted

/-- The candidate is refused first, and of the versions only one that is met before an equal one:
the search ends at the first that is equal. -/
theorem Faithful.find_eq_error_iff (h : c.Faithful) {e : Error} :
    c.find subject candidate f includeDeleted = .error e ↔
      candidate.fingerprint f = .error e ∨
      ∃ wanted front v back, candidate.fingerprint f = .ok wanted ∧
        c.versions subject includeDeleted = front ++ v :: back ∧
        (∀ w ∈ front, w.Differs f wanted) ∧ (∃ d, v.fingerprint f = .error d) ∧
        e = v.unreadable := by
  rw [h.find_eq_iff]
  constructor
  · rintro (⟨e, he, outcome⟩ | ⟨wanted, hwanted, ⟨-, outcome⟩ | ⟨-, found, hfound, outcome⟩⟩)
    · cases outcome
      exact Or.inl he
    · cases outcome
    · obtain rfl : .error e = found := Lookup.map_ofMatch_injective outcome
      rw [Version.firstMatch_readAnew_eq_error_iff] at hfound
      obtain ⟨front, v, back, first⟩ := hfound
      exact Or.inr ⟨wanted, front, v, back, hwanted, first⟩
  · rintro (he | ⟨wanted, front, v, back, hwanted, first⟩)
    · exact Or.inl ⟨e, he, rfl⟩
    · refine Or.inr ⟨wanted, hwanted, Or.inr ⟨?_, .error e,
        Version.firstMatch_readAnew_eq_error_iff.mpr ⟨front, v, back, first⟩, rfl⟩⟩
      rw [first.1]
      exact List.append_ne_nil_of_right_ne_nil _ (List.cons_ne_nil _ _)

/-- That there is no subject is found without reading a version, but not without the candidate. -/
theorem Faithful.find_eq_noSubject_iff (h : c.Faithful) :
    c.find subject candidate f includeDeleted = .ok .noSubject ↔
      ∃ wanted, candidate.fingerprint f = .ok wanted ∧
        c.versions subject includeDeleted = [] := by
  rw [h.find_eq_iff]
  constructor
  · rintro (⟨e, -, outcome⟩ | ⟨wanted, hwanted, ⟨none, -⟩ | ⟨-, found, -, outcome⟩⟩)
    · cases outcome
    · exact ⟨wanted, hwanted, none⟩
    · rcases found with _ | _ | _ <;> cases outcome
  · rintro ⟨wanted, hwanted, none⟩
    exact Or.inr ⟨wanted, hwanted, Or.inl ⟨none, rfl⟩⟩

/-- To say that none is equal the search has read all of them, so each has a fingerprint. -/
theorem Faithful.find_eq_noMatch_iff (h : c.Faithful) :
    c.find subject candidate f includeDeleted = .ok .noMatch ↔
      ∃ wanted, candidate.fingerprint f = .ok wanted ∧
        c.versions subject includeDeleted ≠ [] ∧
        ∀ v ∈ c.versions subject includeDeleted, v.Differs f wanted := by
  rw [h.find_eq_iff]
  constructor
  · rintro (⟨e, -, outcome⟩ | ⟨wanted, hwanted, ⟨-, outcome⟩ | ⟨some, found, hfound, outcome⟩⟩)
    · cases outcome
    · cases outcome
    · obtain rfl : .ok none = found := Lookup.map_ofMatch_injective outcome
      rw [Version.firstMatch_readAnew_eq_none_iff] at hfound
      exact ⟨wanted, hwanted, some, hfound⟩
  · rintro ⟨wanted, hwanted, some, differ⟩
    exact Or.inr ⟨wanted, hwanted, Or.inr ⟨some, .ok none,
      Version.firstMatch_readAnew_eq_none_iff.mpr differ, rfl⟩⟩

/-- What is found is the first version that is equal, so every one in front of it was read and
differs. -/
theorem Faithful.find_eq_found_iff (h : c.Faithful) {v : Version} :
    c.find subject candidate f includeDeleted = .ok (.found v) ↔
      ∃ wanted front back, candidate.fingerprint f = .ok wanted ∧
        c.versions subject includeDeleted = front ++ v :: back ∧
        (∀ w ∈ front, w.Differs f wanted) ∧ v.fingerprint f = .ok wanted := by
  rw [h.find_eq_iff]
  constructor
  · rintro (⟨e, -, outcome⟩ | ⟨wanted, hwanted, ⟨-, outcome⟩ | ⟨-, found, hfound, outcome⟩⟩)
    · cases outcome
    · cases outcome
    · obtain rfl : .ok (some v) = found := Lookup.map_ofMatch_injective outcome
      rw [Version.firstMatch_readAnew_eq_some_iff] at hfound
      obtain ⟨front, back, first⟩ := hfound
      exact ⟨wanted, front, back, hwanted, first⟩
  · rintro ⟨wanted, front, back, hwanted, first⟩
    refine Or.inr ⟨wanted, hwanted, Or.inr ⟨?_, .ok (some v),
      Version.firstMatch_readAnew_eq_some_iff.mpr ⟨front, back, first⟩, rfl⟩⟩
    rw [first.1]
    exact List.append_ne_nil_of_right_ne_nil _ (List.cons_ne_nil _ _)

/-- A new id is given only after every row of the catalog has been read, those of other tenants and
those that are deleted among them. -/
theorem Faithful.findId_eq_none_iff (h : c.Faithful) :
    c.findId wanted = .ok none ↔ ∀ row ∈ c.rows, row.version.Differs .raw wanted := by
  have passed := @Version.firstMatch_readAnew_eq_none_iff .raw wanted (c.rows.map (·.version))
  rw [List.forall_mem_map] at passed
  rw [h.findId_eq, ← passed]
  rcases Version.firstMatch (Version.readAnew .raw) wanted _ with e | none | v
  · exact ⟨nofun, nofun⟩
  · exact ⟨fun _ => rfl, fun _ => rfl⟩
  · exact ⟨nofun, nofun⟩

/-- An id is that of the first row that is equal, in the order of the rows. Of later rows nothing is
read. -/
theorem Faithful.findId_eq_some_iff (h : c.Faithful) {id : Int64} :
    c.findId wanted = .ok (some id) ↔
      ∃ front v back, c.rows.map (·.version) = front ++ v :: back ∧
        (∀ w ∈ front, w.Differs .raw wanted) ∧ v.fingerprint .raw = .ok wanted ∧ v.id = id := by
  rw [h.findId_eq]
  constructor
  · intro found
    cases hfound : Version.firstMatch (Version.readAnew .raw) wanted (c.rows.map (·.version)) with
    | error e =>
      rw [hfound] at found
      cases found
    | ok result =>
      rw [hfound] at found
      cases result with
      | none => cases found
      | some v =>
        cases found
        obtain ⟨front, back, hrows, differ, has⟩ :=
          Version.firstMatch_readAnew_eq_some_iff.mp hfound
        exact ⟨front, v, back, hrows, differ, has, rfl⟩
  · rintro ⟨front, v, back, hrows, differ, has, rfl⟩
    rw [Version.firstMatch_readAnew_eq_some_iff.mpr ⟨front, back, hrows, differ, has⟩]
    rfl

/-- A row that cannot be read stands in the way of every id that is looked for behind it. -/
theorem Faithful.findId_eq_error_iff (h : c.Faithful) {e : Error} :
    c.findId wanted = .error e ↔
      ∃ front v back, c.rows.map (·.version) = front ++ v :: back ∧
        (∀ w ∈ front, w.Differs .raw wanted) ∧ (∃ d, v.fingerprint .raw = .error d) ∧
        e = v.unreadable := by
  rw [h.findId_eq, ← Version.firstMatch_readAnew_eq_error_iff]
  rcases Version.firstMatch (Version.readAnew .raw) wanted _ with e | none | v
  · exact ⟨fun h => by cases h; rfl, fun h => by cases h; rfl⟩
  all_goals exact ⟨nofun, nofun⟩

/-- **Every outcome of a search says what it ought to say.** -/
theorem Faithful.searches (h : c.Faithful) (sorted : c.Sorted) : Searches c where
  ascending := sorted.ascending
  inOrder := List.pairwise_map.mpr sorted
  refused _ _ _ _ _ := h.find_eq_error_iff
  invalid _ _ _ he := canonicalize_error (Candidate.fingerprint_error he)
  noSubject _ _ _ _ := h.find_eq_noSubject_iff
  noMatch _ _ _ _ := h.find_eq_noMatch_iff
  found _ _ _ _ _ := h.find_eq_found_iff
  noId _ := h.findId_eq_none_iff
  foundId _ _ := h.findId_eq_some_iff
  unreadId _ _ := h.findId_eq_error_iff

end Catalog

end SchemaRegistry
