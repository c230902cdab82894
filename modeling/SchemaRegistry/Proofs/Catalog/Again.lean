import SchemaRegistry.Proofs.Catalog.Settled
import SchemaRegistry.Proofs.Cluster.Names
import SchemaRegistry.Proofs.Log.Ids
import SchemaRegistry.Proofs.Log.References
import SchemaRegistry.Proofs.Schema.Canonical
/-!
# Stored versions are found again

A stored version can be looked for by what it is: its format, its text and its references. Three
things could be in the way. Its references are resolved again, and they are what a resolution came
to at an earlier time; a search stops at the first row that cannot be read; and the first row that
is equal need not be the row itself. No deletion takes away what a reference names, and every stored
schema could be read when it was registered, and still can. So a search comes to an end, and finds
the version or an earlier one of its subject.

One thing is in the way. A reference whose subject has nothing but blanks is refused before it is
resolved, and the name of a subject can have nothing but blanks. A reference to such a subject can
be written with more than the name, and is stored with the name.
-/

set_option autoImplicit false

namespace SchemaRegistry

/-- What a stored version is looked for by. -/
def Version.candidate (v : Version) : Candidate :=
  { format := v.format, references := v.references, text := v.text }

/-! ## Schemas that can be read -/

/-- A schema that has a canonical text has both. -/
theorem exists_canonicalize {format : Format} {text canonical : String} {f : Fidelity}
    (h : canonicalize format text f = .ok canonical) (f' : Fidelity) :
    ∃ other, canonicalize format text f' = .ok other := by
  obtain ⟨x, hx, -⟩ := Canonical.exists_content h
  rw [Canonical.canonicalize_eq_map, hx]
  exact ⟨_, rfl⟩

theorem Version.exists_fingerprint {v : Version} {f : Fidelity} {print : Fingerprint}
    (h : v.fingerprint f = .ok print) (f' : Fidelity) : ∃ other, v.fingerprint f' = .ok other := by
  unfold Version.fingerprint SchemaRegistry.fingerprint at h ⊢
  rcases hcanonical : canonicalize v.format v.text f with e | canonical
  · simp [hcanonical, Except.map] at h
  · obtain ⟨other, hother⟩ := exists_canonicalize hcanonical f'
    rw [hother]
    exact ⟨_, rfl⟩

/-- A row with the fingerprints of a version that can be read has the version's own. -/
theorem Row.Faithful.print_eq {row : Row} (h : row.Faithful) {f : Fidelity} {print : Fingerprint}
    (readable : row.version.fingerprint f = .ok print) : row.print f = .ok print := by
  obtain ⟨raw, hraw⟩ := Version.exists_fingerprint readable .raw
  obtain ⟨normalized, hnormalized⟩ := Version.exists_fingerprint readable .normalized
  have prints : row.prints = some { raw, normalized } := by
    rw [h, Prints.ofVersion?, hraw, hnormalized]
  rw [Row.print, prints, ← readable]
  rcases f with _ | _
  · exact hraw.symm
  · exact hnormalized.symm

/-- Every stored schema can be read. -/
theorem History.exists_fingerprint {log : List Entry} (h : History log) {row : Row}
    (hrow : row ∈ (Catalog.ofEntries log).rows) (f : Fidelity) :
    ∃ print, row.version.fingerprint f = .ok print := by
  obtain ⟨k, decided⟩ := h.exists_decided hrow
  obtain ⟨wanted, hwanted, -⟩ := decided.id_origin
  exact Version.exists_fingerprint (v := row.version) hwanted f

/-! ## Searching -/

/-- A search that meets no row it cannot read, and a row of the fingerprint, finds one. -/
theorem Row.exists_firstMatch {wanted : Fingerprint} {f : Fidelity} {rows : List Row}
    (readable : ∀ row ∈ rows, ∃ print, row.print f = .ok print) {row : Row} (hrow : row ∈ rows)
    (has : row.print f = .ok wanted) : ∃ v, firstMatch wanted f rows = .ok (some v) := by
  induction rows with
  | nil => exact absurd hrow List.not_mem_nil
  | cons first rest ih =>
    obtain ⟨⟨print, hprint⟩, others⟩ := List.forall_mem_cons.mp readable
    by_cases same : print = wanted
    · exact ⟨first.version, by simp only [firstMatch, hprint, same, if_true]⟩
    · have behind : row ∈ rest := by
        rcases List.mem_cons.mp hrow with rfl | behind
        · rw [hprint] at has
          exact absurd (Except.ok.inj has) same
        · exact behind
      obtain ⟨v, hv⟩ := ih others behind
      exact ⟨v, by simp only [firstMatch, hprint, same, if_false, hv]⟩

/-- A search for a stored version finds it, or an earlier one of its subject that is equal. -/
theorem History.exists_find {log : List Entry} (h : History log) {v : Version}
    {includeDeleted : Bool} (f : Fidelity)
    (hv : v ∈ (Catalog.ofEntries log).versions v.subject includeDeleted) :
    ∃ w print, (Catalog.ofEntries log).find v.subject v.candidate f includeDeleted =
        .ok (.found w) ∧ w ∈ (Catalog.ofEntries log).versions v.subject includeDeleted ∧
      w.number ≤ v.number ∧ w.fingerprint f = .ok print ∧ v.fingerprint f = .ok print := by
  have faithful := Catalog.faithful_ofEntries log
  have sorted := Catalog.sorted_ofEntries log
  obtain ⟨row, hrow, rfl⟩ := List.mem_map.mp hv
  have stored : ∀ other ∈ (Catalog.ofEntries log).rowsOf row.version.subject includeDeleted,
      other ∈ (Catalog.ofEntries log).rows :=
    fun other hother => (List.mem_filter.mp hother).1
  obtain ⟨print, hprint⟩ := h.exists_fingerprint (stored row hrow) f
  have readable : ∀ other ∈ (Catalog.ofEntries log).rowsOf row.version.subject includeDeleted,
      ∃ print, other.print f = .ok print := by
    intro other hother
    obtain ⟨print, hprint⟩ := h.exists_fingerprint (stored other hother) f
    exact ⟨print, (faithful other (stored other hother)).print_eq hprint⟩
  obtain ⟨w, hw⟩ := Row.exists_firstMatch readable hrow
    ((faithful row (stored row hrow)).print_eq hprint)
  have found : (Catalog.ofEntries log).find row.version.subject row.version.candidate f
      includeDeleted = .ok (.found w) := by
    have candidate : row.version.candidate.fingerprint f = .ok print := hprint
    rw [Catalog.find, candidate]
    rcases hrows : (Catalog.ofEntries log).rowsOf row.version.subject includeDeleted with _ | _
    · simp [hrows] at hrow
    · simp only [← hrows, hw]
      rfl
  obtain ⟨hmem, wanted, hwanted, hown, first⟩ := Catalog.first_of_find faithful sorted found
  have same : wanted = print := Except.ok.inj (hwanted.symm.trans hprint)
  subst same
  refine ⟨w, wanted, found, hmem, ?_, hown, hprint⟩
  -- An equal version in front of the one that is found would have been found.
  apply UInt32.not_lt.mp
  intro earlier
  exact first row.version hv earlier hprint

/-! ## References -/

namespace Reference

/-- Why a reference is refused that names nothing. -/
def unnamed (r : Reference) : Error :=
  .invalidSchema s!"Reference '{r.name}' has an empty subject"

/-- Of a reference that was once in order, only the subject can be found wanting. -/
theorem check_of_ok {r : Reference} (h : r.check = .ok ()) (name : String) :
    check { r with subject := name } =
      if isBlankText name then .error (unnamed r) else .ok () := by
  unfold check at h ⊢
  by_cases nameless : isBlankText r.name = true
  · simp [nameless] at h
  · by_cases blank : isBlankText r.subject = true
    · simp [nameless, blank] at h
    · by_cases zero : r.version = 0
      · simp [nameless, blank, zero] at h
      · rw [if_neg nameless, if_neg zero]
        rfl

end Reference

/-- The first reference of a version that is refused because its subject has nothing but blanks. -/
def Version.unnamed? (v : Version) : Option Reference :=
  v.references.find? fun r => Reference.isBlankText r.subject

/-- A name has nothing but blanks exactly if it is a local name of blanks on its own. -/
theorem Subject.isBlankText_rendered (s : Subject) :
    Reference.isBlankText s.rendered = true ↔
      s.tenant = defaultTenant ∧ s.context = defaultContext ∧
        Reference.isBlankText s.localName = true := by
  have separator : Text.isBlank '_' = false := by decide
  have colon : Text.isBlank ':' = false := by decide
  have tenant :
      (tenantText s.tenant).toList.all Text.isBlank = true ↔ s.tenant = defaultTenant := by
    unfold tenantText
    by_cases own : s.tenant = defaultTenant
    · simp [own]
    · simp [own, separator]
  have context : s.localName.toList.all Text.isBlank = true →
      ((contextText s.context s.localName).toList.all Text.isBlank = true ↔
        s.context = defaultContext) := by
    intro blank
    -- A blank name begins with no colon, so the default context is not written in front of it.
    have plain : s.localName.toList.head? ≠ some ':' := by
      intro head
      have first := List.all_eq_true.mp blank _ (List.mem_of_head? head)
      rw [colon] at first
      cases first
    unfold contextText
    by_cases own : s.context = defaultContext
    · simp [own, plain]
    · simp [own, colon]
  unfold Reference.isBlankText rendered
  simp only [String.toList_append, List.all_append, Bool.and_eq_true, tenant]
  tauto

/-- A list of which every item is kept or refused is kept, or the first item that is refused
decides. -/
theorem mapM_eq_find? {α ε : Type} {f : α → Except ε α} {p : α → Bool} {error : α → ε} {xs : List α}
    (each : ∀ x ∈ xs, f x = if p x then .error (error x) else .ok x) :
    xs.mapM f = match xs.find? p with
      | none => .ok xs
      | some x => .error (error x) := by
  induction xs with
  | nil => rfl
  | cons x xs ih =>
    obtain ⟨first, others⟩ := List.forall_mem_cons.mp each
    rw [List.mapM_cons, first, ih others]
    by_cases refused : p x = true
    · rw [if_pos refused, List.find?_cons_of_pos refused]
      rfl
    · rw [if_neg refused, List.find?_cons_of_neg refused]
      rcases xs.find? p with _ | y <;> rfl

namespace History

variable {log : List Entry} {row : Row}

/-- A stored reference was in order when it was registered, but for the name it was given then. -/
theorem check_reference (h : History log) (hrow : row ∈ (Catalog.ofEntries log).rows)
    {r : Reference} (hr : r ∈ row.version.references) :
    r.check = if Reference.isBlankText r.subject then .error r.unnamed else .ok () := by
  obtain ⟨k, decided⟩ := h.exists_decided hrow
  obtain ⟨tenant, candidate, fidelity, -, appends⟩ := decided.of_register
  obtain ⟨given, -, hgiven⟩ := Catalog.exists_of_mem_resolve appends.references hr
  obtain ⟨target, -, rfl, checked, -⟩ := Catalog.resolveReference_eq_ok hgiven
  exact Reference.check_of_ok checked target.rendered

/-- A stored reference is resolved to itself, unless it is refused for its name. -/
theorem resolveReference_again (h : History log) (hrow : row ∈ (Catalog.ofEntries log).rows)
    {r : Reference} (hr : r ∈ row.version.references) :
    (Catalog.ofEntries log).resolveReference row.version.subject.tenant r =
      if Reference.isBlankText r.subject then .error r.unnamed else .ok r := by
  obtain ⟨target, own, wellFormed, named, stored⟩ := h.anchored row hrow r hr
  have read := Subject.resolve_rendered wellFormed
  rw [← named, own] at read
  rw [Catalog.resolveReference, h.check_reference hrow hr]
  by_cases blank : Reference.isBlankText r.subject = true
  · simp only [blank, if_true]
  · simp only [blank, read, Catalog.isSome_get?_iff.mpr stored, if_true, ← named]
    rfl

/-- The references of a stored version are resolved to themselves, unless one is refused. -/
theorem resolveCandidate_again (h : History log) (hrow : row ∈ (Catalog.ofEntries log).rows) :
    (Catalog.ofEntries log).resolveCandidate row.version.subject.tenant row.version.candidate =
      match row.version.unnamed? with
      | none => .ok row.version.candidate
      | some r => .error r.unnamed := by
  have resolved := mapM_eq_find? fun r hr => h.resolveReference_again hrow hr
  have references : row.version.candidate.references = row.version.references := rfl
  rw [Catalog.resolveCandidate, Catalog.resolve, references, resolved, Version.unnamed?]
  generalize row.version.references.find? _ = first
  rcases first with _ | r <;> rfl

/-- Only the default tenant has references that are refused. -/
theorem tenant_of_unnamed (h : History log) (hrow : row ∈ (Catalog.ofEntries log).rows)
    {r : Reference} (hr : row.version.unnamed? = some r) :
    row.version.subject.tenant = Subject.defaultTenant := by
  obtain ⟨target, own, -, named, -⟩ := h.anchored row hrow r (List.mem_of_find?_eq_some hr)
  have blank := List.find?_some hr
  rw [named, Subject.isBlankText_rendered] at blank
  rw [← own, blank.1]

/-! ## Looking up and registering again -/

/-- A registration of what is stored and live already comes to nothing new. -/
theorem plan_again (h : History log) (hrow : row ∈ (Catalog.ofEntries log).rows)
    (live : row.version.isLive = true) (f : Fidelity) :
    match row.version.unnamed? with
    | none => ∃ w : Version, w.number ≤ row.version.number ∧
        Registration.plan (.ofEntries log) row.version.subject.tenant row.version.subject
          row.version.candidate f = .ok (.existing { id := w.id, number := w.number })
    | some r => Registration.plan (.ofEntries log) row.version.subject.tenant row.version.subject
          row.version.candidate f = .error r.unnamed := by
  have resolved := h.resolveCandidate_again hrow
  have stored : row.version ∈ (Catalog.ofEntries log).versions row.version.subject false :=
    Catalog.mem_versions_iff.mpr ⟨⟨row, hrow, rfl⟩, rfl, Or.inr live⟩
  obtain ⟨w, print, found, -, notAbove, -⟩ := h.exists_find f stored
  rcases hunnamed : row.version.unnamed? with _ | r
  · rw [hunnamed] at resolved
    refine ⟨w, notAbove, ?_⟩
    simp only [Registration.plan, resolved, found]
  · rw [hunnamed] at resolved
    simp only [Registration.plan, resolved]

end History

/-- A call that comes to no operation on a catalog, at a node that serves the tenant. -/
def Call.ComesToNothing {α : Type} (call : Call α) (tenant : String) (subject : Subject)
    (c : Catalog) : Prop :=
  ∀ op answer, Node.planFor tenant subject call c ≠ .ok { op := some op, answer }

theorem History.comesToNothing {log : List Entry} (h : History log) {row : Row}
    (hrow : row ∈ (Catalog.ofEntries log).rows) (live : row.version.isLive = true)
    (normalize : Bool) :
    (Call.register row.version.candidate normalize).ComesToNothing row.version.subject.tenant
      row.version.subject (.ofEntries log) := by
  intro op answer planned
  have registers := Node.plan_of_planFor_register planned
  have again := h.plan_again hrow live (.ofNormalize normalize)
  rcases hunnamed : row.version.unnamed? with _ | r
  · simp only [hunnamed] at again
    obtain ⟨w, -, existing⟩ := again
    rw [existing] at registers
    cases registers
  · simp only [hunnamed] at again
    rw [again] at registers
    cases registers

end SchemaRegistry
