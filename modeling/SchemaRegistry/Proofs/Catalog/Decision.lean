import SchemaRegistry.Node.Basic
import SchemaRegistry.Proofs.Catalog.Reading
/-!
# What a plan decides

A plan either refuses or settles everything about the operation that is appended. Both plans are
inverted here once: from a plan that was made follows what the operation is, on which versions it
works, and which checks the catalog has passed. `Catalog.Decides` is the outcome that matters to a
log, an operation that some plan on the catalog came to.

A registration counts only under a subject that a name has been resolved to, as the nodes do it. A
deletion may be asked for any subject, since it finds versions of registered subjects only.
-/

set_option autoImplicit false

namespace SchemaRegistry

/-- Whether the subject is what some name means under the tenant. -/
def Subject.Named (tenant : String) (s : Subject) : Prop :=
  ∃ raw, Subject.resolve tenant raw = .ok s

/-! ## Deletions -/

namespace Deletion

/-- The numbers that a deletion is about. -/
def targets (c : Catalog) (subject : Subject) (mode : DeletionMode) : List UInt32 :=
  (c.versions subject mode.isPermanent).map (·.number)

theorem mem_targets_permanent_iff {c : Catalog} {subject : Subject} {n : UInt32} :
    n ∈ targets c subject .permanent ↔ c.Stores (subject, n) := by
  rw [targets, List.mem_map]
  constructor
  · rintro ⟨v, hv, rfl⟩
    obtain ⟨⟨row, hrow, rfl⟩, hsubject, -⟩ := Catalog.mem_versions_iff.mp hv
    exact ⟨row, hrow, by rw [Version.key, hsubject]⟩
  · rintro ⟨row, hrow, hkey⟩
    rw [Version.key, Prod.mk.injEq] at hkey
    refine ⟨row.version, ?_, hkey.2⟩
    exact Catalog.mem_versions_iff.mpr ⟨⟨row, hrow, rfl⟩, hkey.1, Or.inl rfl⟩

/-- Nothing stands in the way of a deletion if none of its numbers is in use. -/
theorem firstReference?_eq_none_iff {c : Catalog} {subject : Subject} {numbers : List UInt32} :
    firstReference? c subject numbers = none ↔ ∀ n ∈ numbers, c.referencedBy subject n = [] := by
  induction numbers with
  | nil => exact ⟨fun _ n hn => absurd hn List.not_mem_nil, fun _ => rfl⟩
  | cons n rest ih =>
    rw [firstReference?, List.forall_mem_cons]
    cases hn : c.referencedBy subject n with
    | nil => exact ⟨fun h => ⟨rfl, ih.mp h⟩, fun h => ih.mpr h.2⟩
    | cons referrer _ => exact ⟨nofun, fun h => nomatch h.1⟩

theorem checkReferences_eq_ok_iff {c : Catalog} {subject : Subject} {numbers : List UInt32} :
    checkReferences c subject numbers = .ok () ↔ ∀ n ∈ numbers, c.referencedBy subject n = [] := by
  rw [← firstReference?_eq_none_iff, checkReferences]
  cases firstReference? c subject numbers with
  | none => exact ⟨fun _ => rfl, fun _ => rfl⟩
  | some reference => exact ⟨nofun, nofun⟩

/-- A deletion is planned exactly if the state of the subject allows it and, for good, nobody else
uses the versions; it is then about all its targets, and the caller is told them. -/
theorem plan_eq_ok_iff {c : Catalog} {subject : Subject} {mode : DeletionMode} {o : Op}
    {record : DeletionRecord} :
    plan c subject mode = .ok (o, record) ↔
      check (c.state subject) subject mode = .ok () ∧
        (mode = .permanent → ∀ n ∈ targets c subject mode, c.referencedBy subject n = []) ∧
        o = op subject (targets c subject mode) mode ∧
        record = { subject, mode, versions := targets c subject mode } := by
  rw [plan]
  cases check (c.state subject) subject mode with
  | error e => exact ⟨nofun, fun h => nomatch h.1⟩
  | ok u =>
    cases mode with
    -- A soft deletion asks nothing about references, so the condition on them is empty.
    | soft =>
      constructor
      · intro h
        cases h
        exact ⟨rfl, nofun, rfl, rfl⟩
      · rintro ⟨-, -, rfl, rfl⟩
        rfl
    | permanent =>
      have used := @checkReferences_eq_ok_iff c subject (targets c subject .permanent)
      change (checkReferences c subject (targets c subject .permanent)).map _ = _ ↔ _
      cases hr : checkReferences c subject (targets c subject .permanent) with
      | error e =>
        rw [hr] at used
        exact ⟨nofun, fun h => nomatch used.mpr (h.2.1 rfl)⟩
      | ok u =>
        rw [hr] at used
        constructor
        · intro h
          cases h
          exact ⟨rfl, fun _ => used.mp rfl, rfl, rfl⟩
        · rintro ⟨-, -, rfl, rfl⟩
          rfl

end Deletion

/-! ## Registrations -/

namespace Registration

/-- The next number is one above the highest, and it is not given where that would overflow. -/
theorem toNat_of_nextNumber {highest n : UInt32} (h : nextNumber highest = .ok n) :
    n.toNat = highest.toNat + 1 := by
  rw [nextNumber] at h
  split at h
  · cases h
    rw [UInt32.toNat_add, UInt32.toNat_one]
    omega
  · cases h

/-- All that is known of a version that a registration appends. -/
structure Appends (c : Catalog) (tenant : String) (subject : Subject) (candidate : Candidate)
    (fidelity : Fidelity) (v : Version) : Prop where
  references : c.resolve tenant candidate.references = .ok v.references
  /-- The search for an equal live version came to an end and found none. -/
  unmatched : ∃ found : Lookup, (∀ w, found ≠ .found w) ∧
    c.find subject { candidate with references := v.references } fidelity false = .ok found
  id : idFor c { candidate with references := v.references } = .ok v.id
  number : v.number.toNat = (c.highestVersion subject).toNat + 1
  subject : v.subject = subject
  format : v.format = candidate.format
  text : v.text = candidate.text
  isDeleted : v.isDeleted = false

/-- A new version has the next number, the id that was found or made for it, and the rest as the
candidate has it. -/
theorem appends_of_newVersion {c : Catalog} {subject : Subject} {candidate : Candidate}
    {v : Version} (h : newVersion c subject candidate = .ok v) :
    idFor c candidate = .ok v.id ∧ v.number.toNat = (c.highestVersion subject).toNat + 1 ∧
      v.subject = subject ∧ v.format = candidate.format ∧ v.references = candidate.references ∧
      v.text = candidate.text ∧ v.isDeleted = false := by
  rw [newVersion] at h
  split at h
  · cases h
  · rename_i id hid
    cases hn : nextNumber (c.highestVersion subject) with
    | error e =>
      rw [hn] at h
      cases h
    | ok n =>
      rw [hn] at h
      cases h
      exact ⟨hid, toNat_of_nextNumber hn, rfl, rfl, rfl, rfl, rfl⟩

/-- A registration that appends, appends one version and tells the caller its id and number. -/
theorem appends_of_plan {c : Catalog} {tenant : String} {subject : Subject}
    {candidate : Candidate} {fidelity : Fidelity} {op : Op} {registered : Registered}
    (h : plan c tenant subject candidate fidelity = .ok (.append op registered)) :
    ∃ v, op = .register v ∧ registered = { id := v.id, number := v.number } ∧
      Appends c tenant subject candidate fidelity v := by
  rw [plan, Catalog.resolveCandidate] at h
  cases hr : c.resolve tenant candidate.references with
  | error e =>
    rw [hr] at h
    cases h
  | ok references =>
    rw [hr] at h
    dsimp only [Except.map] at h
    split at h
    · cases h
    · cases h
    · -- A version is made only where the search has ended without a match.
      rename_i found hnot hfind
      cases hv : newVersion c subject { candidate with references } with
      | error e =>
        rw [hv] at h
        cases h
      | ok v =>
        rw [hv] at h
        cases h
        obtain ⟨hid, hnumber, hsubject, hformat, hreferences, htext, hdeleted⟩ :=
          appends_of_newVersion hv
        dsimp only at hreferences
        subst hreferences
        exact ⟨v, rfl, rfl, hr, ⟨found, hnot, hfind⟩, hid, hnumber,
          hsubject, hformat, htext, hdeleted⟩

/-- A registration that appends nothing tells the caller of a live version that was found. -/
theorem found_of_plan {c : Catalog} {tenant : String} {subject : Subject}
    {candidate : Candidate} {fidelity : Fidelity} {registered : Registered}
    (h : plan c tenant subject candidate fidelity = .ok (.existing registered)) :
    ∃ resolved v, c.resolveCandidate tenant candidate = .ok resolved ∧
      c.find subject resolved fidelity false = .ok (.found v) ∧
      registered = { id := v.id, number := v.number } := by
  rw [plan] at h
  rcases hresolved : c.resolveCandidate tenant candidate with e | resolved
  · simp [hresolved] at h
  · simp only [hresolved] at h
    split at h
    · cases h
    · rename_i v hfind
      cases h
      exact ⟨resolved, v, rfl, hfind, rfl⟩
    · rcases hnew : newVersion c subject resolved with e | v
      · simp [hnew, Except.map] at h
      · simp [hnew, Except.map] at h

end Registration

/-! ## Decisions -/

/-- The operations that plans on the catalog come to. -/
inductive Catalog.Decides (c : Catalog) : Op → Prop where
  | deletion {subject : Subject} {mode : DeletionMode} {op : Op} {record : DeletionRecord}
      (planned : Deletion.plan c subject mode = .ok (op, record)) : Decides c op
  | registration {tenant : String} {subject : Subject} {candidate : Candidate}
      {fidelity : Fidelity} {op : Op} {registered : Registered}
      (named : Subject.Named tenant subject)
      (planned : Registration.plan c tenant subject candidate fidelity =
        .ok (.append op registered)) : Decides c op

theorem Catalog.Decides.of_register {c : Catalog} {v : Version} (h : c.Decides (.register v)) :
    ∃ tenant candidate fidelity, Subject.Named tenant v.subject ∧
      Registration.Appends c tenant v.subject candidate fidelity v := by
  obtain ⟨planned⟩ | ⟨named, planned⟩ := h
  · rename_i subject mode record
    have hop := (Deletion.plan_eq_ok_iff.mp planned).2.2.1
    cases mode <;> cases hop
  · rename_i tenant subject candidate fidelity registered
    obtain ⟨w, hw, -, appends⟩ := Registration.appends_of_plan planned
    cases hw
    have hsubject := appends.subject
    subst hsubject
    exact ⟨tenant, candidate, fidelity, named, appends⟩

/-- What is removed for good is all that is stored of a subject, and nobody else uses it. -/
theorem Catalog.Decides.of_permanentDelete {c : Catalog} {subject : Subject}
    {numbers : List UInt32} (h : c.Decides (.permanentDelete subject numbers)) :
    (∀ n, n ∈ numbers ↔ c.Stores (subject, n)) ∧
      ∀ n ∈ numbers, c.referencedBy subject n = [] := by
  obtain ⟨planned⟩ | ⟨named, planned⟩ := h
  · rename_i other mode record
    obtain ⟨-, unused, hop, -⟩ := Deletion.plan_eq_ok_iff.mp planned
    cases mode with
    | soft => cases hop
    | permanent =>
      cases hop
      exact ⟨fun n => Deletion.mem_targets_permanent_iff, unused rfl⟩
  · obtain ⟨w, hw, -⟩ := Registration.appends_of_plan planned
    cases hw

/-- Whether a call may be made for a subject at a node that serves the tenant: a registration needs
a subject that a name was resolved to. -/
def Call.Admits {α : Type} (tenant : String) (subject : Subject) : Call α → Prop
  | .delete _ => True
  | .register .. => Subject.Named tenant subject

theorem Node.exists_of_planFor_delete {tenant : String} {subject : Subject} {permanent : Bool}
    {c : Catalog} {op : Op} {answer : List UInt32}
    (h : planFor tenant subject (.delete permanent) c = .ok { op := some op, answer }) :
    ∃ record, Deletion.plan c subject (.ofPermanent permanent) = .ok (op, record) := by
  rw [planFor] at h
  cases hp : Deletion.plan c subject (.ofPermanent permanent) with
  | error e =>
    rw [hp] at h
    cases h
  | ok planned =>
    rw [hp] at h
    cases h
    exact ⟨planned.2, rfl⟩

theorem Node.plan_of_planFor_register {tenant : String} {subject : Subject} {candidate : Candidate}
    {normalize : Bool} {c : Catalog} {op : Op} {answer : Registered}
    (h : planFor tenant subject (.register candidate normalize) c =
      .ok { op := some op, answer }) :
    Registration.plan c tenant subject candidate (.ofNormalize normalize) =
      .ok (.append op answer) := by
  rw [planFor] at h
  cases hp : Registration.plan c tenant subject candidate (.ofNormalize normalize) with
  | error e =>
    rw [hp] at h
    cases h
  | ok planned =>
    rw [hp] at h
    cases planned with
    | existing registered => cases h
    | append op registered =>
      cases h
      rfl

/-- Whatever a node plans is decided by the catalog that it plans on, for every kind of write. -/
theorem Node.decides_of_planFor {α : Type} {tenant : String} {subject : Subject} {call : Call α}
    {c : Catalog} {op : Op} {answer : α} (admitted : call.Admits tenant subject)
    (h : planFor tenant subject call c = .ok { op := some op, answer }) : c.Decides op := by
  cases call with
  | delete permanent =>
    obtain ⟨record, planned⟩ := exists_of_planFor_delete h
    exact .deletion planned
  | register candidate normalize =>
    exact .registration admitted (plan_of_planFor_register h)

end SchemaRegistry
