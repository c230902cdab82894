import SchemaRegistry.Proofs.Catalog.Outcome
/-!
# Candidates that are refused

A candidate is refused for one of its references or for its text. `Catalog.Refuses` says when, in
terms of the references, the stored versions and the text alone, and without regard to the order in
which these are looked at. A candidate that is not refused is looked for with references whose
subjects are written out, and it then has a fingerprint in either fidelity. What else can keep a
lookup or a registration from its end is a stored version that cannot be read, and in a catalog in
which all can be read there is none.
-/

set_option autoImplicit false

namespace SchemaRegistry

/-! ## References -/

/-- A reference that fails its check is the fault of the schema that has it, and the answer says so.
-/
theorem Reference.check_error {r : Reference} {e : Error} (h : r.check = .error e) :
    ∃ message, e = .invalidSchema message := by
  unfold Reference.check at h
  split_ifs at h <;> cases h <;> exact ⟨_, rfl⟩

/-- The reference with its subject written out, if that is a name. -/
def Reference.renamed (tenant : String) (r : Reference) : Reference :=
  match Subject.resolve tenant r.subject with
  | .ok subject => { r with subject := subject.rendered }
  | .error _ => r

/-- The candidate with the subjects of its references written out. -/
def Candidate.renamed (tenant : String) (candidate : Candidate) : Candidate :=
  { candidate with references := candidate.references.map (·.renamed tenant) }

/-- A schema that can be read at one fidelity can be read at the other, since its content is the
same. -/
theorem Candidate.exists_fingerprint {candidate : Candidate} {f : Fidelity} {print : Fingerprint}
    (h : candidate.fingerprint f = .ok print) (f' : Fidelity) :
    ∃ other, candidate.fingerprint f' = .ok other :=
  Version.exists_fingerprint (v := { (default : Version) with
    format := candidate.format, references := candidate.references, text := candidate.text }) h f'

namespace Catalog

/-- Why a reference is refused. -/
inductive RefusesReference (c : Catalog) (tenant : String) (r : Reference) : Prop
  | meaningless {e : Error} (unchecked : r.check = .error e)
  | nameless {flaw : Subject.Flaw} (unnamed : Subject.resolve tenant r.subject = .error flaw)
  | missing {subject : Subject} (named : Subject.resolve tenant r.subject = .ok subject)
      (unstored : ¬ c.Stores (subject, r.version))

/-- Whether a candidate is refused, for a reference or for its text. -/
def Refuses (c : Catalog) (tenant : String) (candidate : Candidate) (f : Fidelity) : Prop :=
  (∃ r ∈ candidate.references, c.RefusesReference tenant r) ∨
    ∃ e, canonicalize candidate.format candidate.text f = .error e

variable {c : Catalog} {tenant : String} {candidate : Candidate} {f : Fidelity}

/-- A reference is refused or renamed, and which of the two is told by a predicate that does not
mention how it is resolved. -/
theorem resolveReference_cases (c : Catalog) (tenant : String) (r : Reference) :
    (c.RefusesReference tenant r ∧
      ∃ message, c.resolveReference tenant r = .error (.invalidSchema message)) ∨
    (¬ c.RefusesReference tenant r ∧ c.resolveReference tenant r = .ok (r.renamed tenant)) := by
  rw [resolveReference]
  cases hcheck : r.check with
  | error e =>
    obtain ⟨message, rfl⟩ := Reference.check_error hcheck
    exact Or.inl ⟨.meaningless hcheck, message, rfl⟩
  | ok u =>
    cases hsubject : Subject.resolve tenant r.subject with
    | error flaw => exact Or.inl ⟨.nameless hsubject, _, rfl⟩
    | ok subject =>
      dsimp only
      by_cases stored : c.Stores (subject, r.version)
      · rw [if_pos (isSome_get?_iff.mpr stored), Reference.renamed, hsubject]
        refine Or.inr ⟨?_, rfl⟩
        -- A stored reference passes every test, so none of the three refusals can be made of it.
        rintro (unchecked | unnamed | ⟨named, unstored⟩)
        · rw [hcheck] at unchecked
          cases unchecked
        · rw [hsubject] at unnamed
          cases unnamed
        · rw [hsubject] at named
          cases named
          exact unstored stored
      · rw [if_neg (mt isSome_get?_iff.mp stored)]
        exact Or.inl ⟨.missing hsubject stored, _, rfl⟩

/-- One reference that is refused is enough to refuse all of them. The message is that of the first
such, and is not told here. -/
theorem resolve_cases (c : Catalog) (tenant : String) (references : List Reference) :
    ((∃ r ∈ references, c.RefusesReference tenant r) ∧
      ∃ message, c.resolve tenant references = .error (.invalidSchema message)) ∨
    ((∀ r ∈ references, ¬ c.RefusesReference tenant r) ∧
      c.resolve tenant references = .ok (references.map (·.renamed tenant))) := by
  rw [resolve]
  induction references with
  | nil => exact Or.inr ⟨List.forall_mem_nil _, rfl⟩
  | cons r rest ih =>
    rw [List.mapM_cons]
    rcases c.resolveReference_cases tenant r with ⟨refused, message, hr⟩ | ⟨taken, hr⟩
    · rw [hr]
      exact Or.inl ⟨⟨r, List.mem_cons_self, refused⟩, message, rfl⟩
    · rw [hr]
      rcases ih with ⟨⟨s, hs, refused⟩, message, hrest⟩ | ⟨others, hrest⟩
      · rw [hrest]
        exact Or.inl ⟨⟨s, List.mem_cons_of_mem r hs, refused⟩, message, rfl⟩
      · rw [hrest]
        exact Or.inr ⟨List.forall_mem_cons.mpr ⟨taken, others⟩, rfl⟩

/-! ## Candidates -/

/-- A candidate that is refused is refused when its references are resolved or when it is read. -/
theorem Refuses.exists_error (h : c.Refuses tenant candidate f) :
    ∃ message, c.resolveCandidate tenant candidate = .error (.invalidSchema message) ∨
      c.resolveCandidate tenant candidate = .ok (candidate.renamed tenant) ∧
        (candidate.renamed tenant).fingerprint f = .error (.invalidSchema message) := by
  rw [resolveCandidate]
  rcases c.resolve_cases tenant candidate.references with ⟨-, message, hresolve⟩ | ⟨taken, hresolve⟩
  · rw [hresolve]
    exact ⟨message, Or.inl rfl⟩
  · rcases h with ⟨r, hr, refused⟩ | ⟨e, unread⟩
    · exact absurd refused (taken r hr)
    · obtain ⟨message, rfl⟩ := canonicalize_error unread
      rw [hresolve]
      refine ⟨message, Or.inr ⟨rfl, ?_⟩⟩
      rw [Candidate.fingerprint, fingerprint, Candidate.renamed, unread]
      rfl

/-- A candidate that is not refused is resolved, and has a fingerprint. -/
theorem exists_fingerprint_of_not_refuses (h : ¬ c.Refuses tenant candidate f) :
    c.resolveCandidate tenant candidate = .ok (candidate.renamed tenant) ∧
      ∃ wanted, (candidate.renamed tenant).fingerprint f = .ok wanted := by
  rw [Refuses, not_or] at h
  rw [resolveCandidate]
  rcases c.resolve_cases tenant candidate.references with ⟨refused, -⟩ | ⟨-, hresolve⟩
  · exact absurd refused h.1
  · rw [hresolve]
    refine ⟨rfl, ?_⟩
    rw [Candidate.fingerprint, fingerprint, Candidate.renamed]
    cases hcanonical : canonicalize candidate.format candidate.text f with
    | error e => exact absurd ⟨e, hcanonical⟩ h.2
    | ok canonical => exact ⟨_, rfl⟩

/-! ## Catalogs in which all can be read -/

/-- Whether every stored version can be read. -/
def Readable (c : Catalog) : Prop :=
  ∀ row ∈ c.rows, ∀ f, ∃ print, row.version.fingerprint f = .ok print

variable {subject : Subject} {includeDeleted : Bool} {e : Error}

/-- A search then fails for its candidate only. -/
theorem Readable.of_find_eq_error (h : c.Readable) (searches : Searches c)
    (failed : c.find subject candidate f includeDeleted = .error e) :
    candidate.fingerprint f = .error e := by
  rcases (searches.refused subject candidate f includeDeleted e).mp failed with
    refused | ⟨_, front, v, back, -, hversions, -, ⟨d, unread⟩, -⟩
  · exact refused
  · have hv : v ∈ c.versions subject includeDeleted := hversions ▸ by simp
    obtain ⟨⟨row, hrow, rfl⟩, -⟩ := mem_versions_iff.mp hv
    obtain ⟨print, hprint⟩ := h row hrow f
    rw [hprint] at unread
    cases unread

/-- How a candidate is looked for: it is refused, before or after its references are resolved, or
the search comes to an end. -/
inductive Sought (c : Catalog) (tenant : String) (subject : Subject) (candidate : Candidate)
    (f : Fidelity) (includeDeleted : Bool) : Prop
  | unresolved (refused : c.Refuses tenant candidate f) {message : String}
      (failed : c.resolveCandidate tenant candidate = .error (.invalidSchema message))
  | unread (refused : c.Refuses tenant candidate f) {message : String}
      (resolved : c.resolveCandidate tenant candidate = .ok (candidate.renamed tenant))
      (failed : c.find subject (candidate.renamed tenant) f includeDeleted =
        .error (.invalidSchema message))
  | ended (taken : ¬ c.Refuses tenant candidate f)
      (resolved : c.resolveCandidate tenant candidate = .ok (candidate.renamed tenant))
      {wanted : Fingerprint} (has : (candidate.renamed tenant).fingerprint f = .ok wanted)
      {found : Lookup}
      (search : c.find subject (candidate.renamed tenant) f includeDeleted = .ok found)

/-- Where all versions can be read the search itself cannot fail, so a lookup fails by its candidate
alone. -/
theorem Readable.sought (h : c.Readable) (searches : Searches c) (tenant : String)
    (subject : Subject) (candidate : Candidate) (f : Fidelity) (includeDeleted : Bool) :
    c.Sought tenant subject candidate f includeDeleted := by
  by_cases refused : c.Refuses tenant candidate f
  · obtain ⟨message, failed | ⟨resolved, unread⟩⟩ := refused.exists_error
    · exact .unresolved refused failed
    · exact .unread refused resolved ((searches.refused _ _ _ _ _).mpr (Or.inl unread))
  · obtain ⟨resolved, wanted, has⟩ := exists_fingerprint_of_not_refuses refused
    cases search : c.find subject (candidate.renamed tenant) f includeDeleted with
    | error e =>
      -- The candidate has a fingerprint, so it would be a stored version that was unreadable.
      rw [h.of_find_eq_error searches search] at has
      cases has
    | ok found => exact .ended refused resolved has search

/-- Nor can the search for an id, although it goes through the rows of all tenants. -/
theorem Readable.findId_ne_error (h : c.Readable) (searches : Searches c) (wanted : Fingerprint)
    (e : Error) : c.findId wanted ≠ .error e := by
  intro failed
  obtain ⟨front, v, back, hrows, -, ⟨d, unread⟩, -⟩ := (searches.unreadId wanted e).mp failed
  have hv : v ∈ c.rows.map (·.version) := hrows ▸ by simp
  obtain ⟨row, hrow, rfl⟩ := List.mem_map.mp hv
  obtain ⟨print, hprint⟩ := h row hrow .raw
  rw [hprint] at unread
  cases unread

end Catalog

/-- A version is registered only if it has a fingerprint, and keeps its text from then on. -/
theorem History.readable {log : List Entry} (h : History log) :
    (Catalog.ofEntries log).Readable :=
  fun _ hrow f => h.exists_fingerprint hrow f

/-! ## Registrations that are refused -/

namespace Registration

variable {c : Catalog} {tenant : String} {subject : Subject} {candidate : Candidate}
  {f : Fidelity} {e : Error}

/-- There is no next id only at the greatest one. -/
theorem nextId_eq_error {highest : Int64} (h : nextId highest = .error e) :
    e = exhausted ∧ 9223372036854775807 ≤ highest.toInt := by
  rw [nextId] at h
  split at h
  · cases h
  · cases h
    exact ⟨rfl, by omega⟩

theorem nextNumber_eq_error {highest : UInt32} (h : nextNumber highest = .error e) :
    e = exhausted ∧ 4294967295 ≤ highest.toNat := by
  rw [nextNumber] at h
  split at h
  · cases h
  · cases h
    exact ⟨rfl, by omega⟩

/-- Whether there is no further number for the subject, or no further id. -/
def UsedUp (c : Catalog) (subject : Subject) : Prop :=
  4294967295 ≤ (c.highestVersion subject).toNat ∨ 9223372036854775807 ≤ c.maxId.toInt

/-- A candidate that was read and not found can fail only because the numbers or the ids are used
up. -/
theorem newVersion_eq_error (readable : c.Readable) (searches : Searches c) {print : Fingerprint}
    (hprint : candidate.fingerprint f = .ok print) (h : newVersion c subject candidate = .error e) :
    e = exhausted ∧ UsedUp c subject := by
  -- The text was canonicalized for the search, so the raw print that the id needs can be had as
  -- well.
  obtain ⟨wanted, hwanted⟩ := Candidate.exists_fingerprint hprint .raw
  rw [newVersion] at h
  cases hid : idFor c candidate with
  | error d =>
    rw [hid] at h
    cases h
    rw [idFor, hwanted] at hid
    dsimp only at hid
    cases hfound : c.findId wanted with
    | error d => exact absurd hfound (readable.findId_ne_error searches wanted d)
    | ok found =>
      rw [hfound] at hid
      cases found with
      | some id => cases hid
      | none => exact (nextId_eq_error hid).imp_right Or.inr
  | ok id =>
    rw [hid] at h
    cases hnumber : nextNumber (c.highestVersion subject) with
    | error d =>
      rw [hnumber] at h
      cases h
      exact (nextNumber_eq_error hnumber).imp_right Or.inl
    | ok n =>
      rw [hnumber] at h
      cases h

/-- A registration fails for its candidate, or because all numbers or ids are used up. -/
theorem plan_eq_error (readable : c.Readable) (searches : Searches c)
    (h : plan c tenant subject candidate f = .error e) :
    (c.Refuses tenant candidate f ∧ ∃ message, e = .invalidSchema message) ∨
      e = exhausted ∧ UsedUp c subject := by
  have sought := readable.sought searches tenant subject candidate f false
  rw [plan] at h
  cases sought with
  | unresolved refused failed =>
    rw [failed] at h
    cases h
    exact Or.inl ⟨refused, _, rfl⟩
  | unread refused resolved failed =>
    rw [resolved] at h
    dsimp only at h
    rw [failed] at h
    cases h
    exact Or.inl ⟨refused, _, rfl⟩
  | ended taken resolved has search =>
    rename_i found
    -- Behind the search only the new version can fail: a version found is answered and nothing is
    -- made.
    have new : (newVersion c subject (candidate.renamed tenant)).map
        (fun v => RegistrationPlan.append (.register v) { id := v.id, number := v.number }) =
          .error e := by
      rw [resolved] at h
      dsimp only at h
      rw [search] at h
      cases found with
      | found v => cases h
      | noSubject | noMatch => exact h
    cases hnew : newVersion c subject (candidate.renamed tenant) with
    | error d =>
      rw [hnew] at new
      cases new
      exact Or.inr (newVersion_eq_error readable searches has hnew)
    | ok v =>
      rw [hnew] at new
      cases new

end Registration

end SchemaRegistry
