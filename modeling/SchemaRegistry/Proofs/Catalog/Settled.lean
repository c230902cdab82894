import Mathlib.Data.List.Forall2
import SchemaRegistry.Proofs.Catalog.Decision
import SchemaRegistry.Proofs.Catalog.Growth
import SchemaRegistry.Proofs.Catalog.Order
import SchemaRegistry.Proofs.Catalog.Search
import SchemaRegistry.Proofs.Log.Store
/-!
# Registrations that are settled

A registration is settled in a catalog if it cannot come to anything but one outcome there: whoever
asks for it is told that schema's number and id, or else an error. It is settled once it has been
answered, with or without an entry of its own, and it stays settled as long as nothing of its
subject is deleted.

What changes in the meantime are the references. They are resolved again each time, and may be
refused at one time and not at another. But whenever they are resolved they become the same, so the
candidate is always looked for by the same fingerprint. That it is not found is then a matter of the
rows alone, and these only grow at their end.
-/

set_option autoImplicit false

namespace SchemaRegistry

/-! ## Searching longer rows -/

/-- A search goes on in further rows only if it has come to the end of the first ones. -/
theorem Row.firstMatch_append (wanted : Fingerprint) (f : Fidelity) (xs ys : List Row) :
    firstMatch wanted f (xs ++ ys) =
      match firstMatch wanted f xs with
      | .ok none => firstMatch wanted f ys
      | outcome => outcome := by
  induction xs with
  | nil => rfl
  | cons row rest ih =>
    rw [List.cons_append, firstMatch, firstMatch]
    rcases row.print f with e | print
    · rfl
    · by_cases same : print = wanted <;> simp only [same, if_true, if_false, ih]

namespace Catalog

variable {c c' : Catalog} {tenant : String} {subject : Subject} {candidate resolved : Candidate}
  {f : Fidelity}

/-- The version that a search under a subject has found. -/
theorem firstMatch_of_find {includeDeleted : Bool} {found : Lookup}
    (h : c.find subject candidate f includeDeleted = .ok found) :
    ∃ wanted, candidate.fingerprint f = .ok wanted ∧
      Row.firstMatch wanted f (c.rowsOf subject includeDeleted) =
        .ok (match found with | .found v => some v | _ => none) := by
  rw [find] at h
  rcases hwanted : candidate.fingerprint f with e | wanted
  · simp [hwanted] at h
  · simp only [hwanted] at h
    refine ⟨wanted, rfl, ?_⟩
    split at h
    · rename_i hrows
      obtain rfl := Except.ok.inj h
      rw [hrows]
      rfl
    · rcases hmatch : Row.firstMatch wanted f (c.rowsOf subject includeDeleted) with e | result
      · simp [hmatch, Except.map] at h
      · rw [hmatch] at h
        obtain rfl := Except.ok.inj h
        rcases result with _ | v <;> rfl

/-- A version that a search under a subject has found is the first one that is equal. -/
theorem first_of_find (faithful : c.Faithful) (sorted : c.Sorted) {includeDeleted : Bool}
    {v : Version} (h : c.find subject candidate f includeDeleted = .ok (.found v)) :
    v ∈ c.versions subject includeDeleted ∧ ∃ wanted,
      candidate.fingerprint f = .ok wanted ∧ v.fingerprint f = .ok wanted ∧
      ∀ w ∈ c.versions subject includeDeleted, w.number < v.number →
        w.fingerprint f ≠ .ok wanted := by
  obtain ⟨wanted, hwanted, hmatch⟩ := firstMatch_of_find h
  obtain ⟨front, row, back, hrows, rfl, hprint, hfront⟩ := Row.exists_split_of_firstMatch hmatch
  -- A row of the subject is a row of the catalog, so its print is that of its version.
  have stored : ∀ {other}, other ∈ c.rowsOf subject includeDeleted →
      other ∈ c.rows ∧ other.version.subject = subject := by
    intro other hother
    obtain ⟨hmem, hkept⟩ := List.mem_filter.mp hother
    rw [Bool.and_eq_true, beq_iff_eq] at hkept
    exact ⟨hmem, hkept.1⟩
  have hrow : row ∈ c.rowsOf subject includeDeleted := by simp [hrows]
  refine ⟨List.mem_map_of_mem hrow, wanted, hwanted, (faithful row (stored hrow).1).print hprint,
    fun w hw hlt => ?_⟩
  obtain ⟨other, hother, rfl⟩ := List.mem_map.mp hw
  have inOrder : Row.InOrder (c.rowsOf subject includeDeleted) := List.Pairwise.filter _ sorted
  rw [hrows] at hother inOrder
  rcases List.mem_append.mp hother with before | after
  · -- The search has passed over every row in front, since its print differs.
    obtain ⟨print, hother_print, different⟩ := hfront other before
    have hmem : other ∈ c.rowsOf subject includeDeleted := by simp [hrows, before]
    rw [(faithful other (stored hmem).1).print hother_print]
    intro same
    exact different (Except.ok.inj same)
  · -- Rows of one subject are in the order of their numbers, so this one has no smaller number.
    have hmem : other ∈ c.rowsOf subject includeDeleted := by rw [hrows]; simp [after]
    have hle : row.version.place ≤ other.version.place := by
      rcases List.mem_cons.mp after with rfl | hback
      · exact le_refl _
      · exact ((List.pairwise_cons.mp (List.pairwise_append.mp inOrder).2.1).1 other hback).le
    have behind : other.version.place < row.version.place := by
      rw [Version.place, Version.place, (stored hmem).2, (stored hrow).2, Prod.Lex.toLex_lt_toLex]
      exact Or.inr ⟨rfl, hlt⟩
    exact absurd behind (not_lt.mpr hle)

/-! ## References that are resolved again -/

/-- A catalog decides whether references are resolved, and not what they become. -/
theorem resolve_unique {given first second : List Reference}
    (h : c.resolve tenant given = .ok first) (h' : c'.resolve tenant given = .ok second) :
    first = second := by
  have once : Relator.RightUnique fun r resolved : Reference =>
      ∃ c : Catalog, c.resolveReference tenant r = .ok resolved := by
    rintro r a b ⟨c, ha⟩ ⟨c', hb⟩
    obtain ⟨s, hs, rfl, -⟩ := resolveReference_eq_ok ha
    obtain ⟨s', hs', rfl, -⟩ := resolveReference_eq_ok hb
    rw [hs] at hs'
    cases hs'
    rfl
  rw [resolve, mapM_eq_ok_iff] at h h'
  exact List.right_unique_forall₂' once (h.imp fun _ _ ha => ⟨c, ha⟩)
    (h'.imp fun _ _ hb => ⟨c', hb⟩)

theorem resolveCandidate_eq_ok
    (h : c.resolveCandidate tenant candidate = .ok resolved) :
    c.resolve tenant candidate.references = .ok resolved.references ∧
      resolved = { candidate with references := resolved.references } := by
  rw [resolveCandidate] at h
  rcases hr : c.resolve tenant candidate.references with e | references
  · simp [hr, Except.map] at h
  · rw [hr] at h
    obtain rfl := Except.ok.inj h
    exact ⟨rfl, rfl⟩

theorem resolveCandidate_unique {second : Candidate}
    (h : c.resolveCandidate tenant candidate = .ok resolved)
    (h' : c'.resolveCandidate tenant candidate = .ok second) : resolved = second := by
  obtain ⟨hr, hresolved⟩ := resolveCandidate_eq_ok h
  obtain ⟨hr', hsecond⟩ := resolveCandidate_eq_ok h'
  rw [hresolved, hsecond, resolve_unique hr hr']

/-! ## Settled registrations -/

/-- Whether a search for the candidate under a subject, if it comes to an end, finds a live version
that has been given this number and id. The references are those of any catalog that resolves them.
-/
def Settled (c : Catalog) (tenant : String) (subject : Subject) (candidate : Candidate)
    (f : Fidelity) (registered : Registered) : Prop :=
  ∀ (other : Catalog) (resolved : Candidate) (wanted : Fingerprint) (found : Option Version),
    other.resolveCandidate tenant candidate = .ok resolved →
    resolved.fingerprint f = .ok wanted →
    Row.firstMatch wanted f (c.rowsOf subject false) = .ok found →
    ∃ v, found = some v ∧ registered = { id := v.id, number := v.number }

variable {registered : Registered}

/-- A settled registration can only be told again. -/
theorem Settled.plan_eq (h : c.Settled tenant subject candidate f registered)
    {planned : RegistrationPlan}
    (hplan : Registration.plan c tenant subject candidate f = .ok planned) :
    planned = .existing registered := by
  rw [Registration.plan] at hplan
  rcases hresolved : c.resolveCandidate tenant candidate with e | resolved
  · simp [hresolved] at hplan
  · simp only [hresolved] at hplan
    rcases hfind : c.find subject resolved f false with e | found
    · simp [hfind] at hplan
    · obtain ⟨wanted, hwanted, hmatch⟩ := firstMatch_of_find hfind
      obtain ⟨v, hv, rfl⟩ := h c resolved wanted _ hresolved hwanted hmatch
      rw [hfind] at hplan
      rcases found with w | _ | _
      · obtain rfl := Option.some.inj hv
        exact (Except.ok.inj hplan).symm
      · simp at hv
      · simp at hv

/-- What has been found is settled. -/
theorem settled_of_existing
    (h : Registration.plan c tenant subject candidate f = .ok (.existing registered)) :
    c.Settled tenant subject candidate f registered := by
  obtain ⟨resolved, v, hresolved, hfind, rfl⟩ := Registration.found_of_plan h
  obtain ⟨wanted, hwanted, hmatch⟩ := firstMatch_of_find hfind
  intro other resolved' wanted' found hresolved' hwanted' hmatch'
  rw [resolveCandidate_unique hresolved' hresolved, hwanted] at hwanted'
  obtain rfl := Except.ok.inj hwanted'
  rw [hmatch] at hmatch'
  obtain rfl := Except.ok.inj hmatch'
  exact ⟨v, rfl, rfl⟩

/-- What is appended is settled once it has been applied. -/
theorem settled_of_append (sorted : c.Sorted) (marked : c.Marked) {op : Op}
    (h : Registration.plan c tenant subject candidate f = .ok (.append op registered)) :
    (c.perform op).Settled tenant subject candidate f registered := by
  obtain ⟨v, rfl, rfl, appends⟩ := Registration.appends_of_plan h
  obtain ⟨found, hnot, hfind⟩ := appends.unmatched
  obtain ⟨wanted, hwanted, hmatch⟩ := firstMatch_of_find hfind
  -- Whether the subject was empty or without a match, the search over the old rows finds nothing.
  have hnone : Row.firstMatch wanted f (c.rowsOf subject false) = .ok none := by
    rcases found with w | _ | _
    · exact absurd rfl (hnot w)
    · exact hmatch
    · exact hmatch
  have hresolved : c.resolveCandidate tenant candidate =
      .ok { candidate with references := v.references } := by
    rw [resolveCandidate, appends.references]
    rfl
  intro other resolved' wanted' result hresolved' hwanted' hresult
  rw [resolveCandidate_unique hresolved' hresolved, hwanted] at hwanted'
  obtain rfl := Except.ok.inj hwanted'
  have hsubject := appends.subject
  subst hsubject
  -- The new number is above the mark, so the new row comes behind all rows of its subject and is
  -- searched last.
  have above : (c.highestVersion v.subject).toNat < v.number.toNat := by
    rw [appends.number]
    exact Nat.lt_succ_self _
  rw [rowsOf_register sorted marked appends.isDeleted above, Row.firstMatch_append] at hresult
  simp only [hnone, Row.firstMatch] at hresult
  rcases hprint : (Row.ofVersion v).print f with e | print
  · simp [hprint] at hresult
  · -- The new row carries the fingerprint of its version, which is that of the candidate.
    have faithful : (Row.ofVersion v).Faithful := rfl
    have hown : v.fingerprint f = .ok print := faithful.print hprint
    rw [Version.fingerprint, appends.format, appends.text] at hown
    rw [Candidate.fingerprint, hown] at hwanted
    have hsame : print = wanted := Except.ok.inj hwanted
    simp only [hprint, if_pos hsame] at hresult
    exact ⟨v, (Except.ok.inj hresult).symm, rfl⟩

/-- What is settled stays settled as long as nothing of the subject is deleted. -/
theorem Settled.perform (h : c.Settled tenant subject candidate f registered) (sorted : c.Sorted)
    (marked : c.Marked) {op : Op} (spares : c.Spares subject op) :
    (c.perform op).Settled tenant subject candidate f registered := by
  obtain ⟨more, hmore⟩ := rowsOf_prefix_perform sorted marked spares
  intro other resolved wanted found hresolved hwanted hmatch
  rw [← hmore, Row.firstMatch_append] at hmatch
  rcases hfirst : Row.firstMatch wanted f (c.rowsOf subject false) with e | first
  · simp [hfirst] at hmatch
  · obtain ⟨v, rfl, hv⟩ := h other resolved wanted first hresolved hwanted hfirst
    simp only [hfirst] at hmatch
    exact ⟨v, (Except.ok.inj hmatch).symm, hv⟩

end Catalog

end SchemaRegistry
