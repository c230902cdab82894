import SchemaRegistry.Proofs.Log.Registrations
import SchemaRegistry.Proofs.Subject.Rendered
/-!
# References over a history

No deletion leaves a reference without the version that it names. The guard of permanent deletions
looks for the rendered name of the subject among the references of others, and it leaves out the
subject itself. It is complete for two reasons. A stored reference carries a rendered name, and no
two subjects of a tenant share one; and a permanent deletion takes all versions of its subject, so a
version that refers to its own subject goes together with what it refers to.

Nor does a reference ever come to mean something else, since numbers are not given out twice.
-/

set_option autoImplicit false

namespace SchemaRegistry

namespace Catalog

/-- Whether a stored reference names a version that the catalog stores. -/
def Anchors (c : Catalog) (tenant : String) (r : Reference) : Prop :=
  ∃ target : Subject, target.tenant = tenant ∧ target.WellFormed ∧
    r.subject = target.rendered ∧ c.Stores (target, r.version)

/-- Whether every reference of every row names a stored version. -/
def Anchored (c : Catalog) : Prop :=
  ∀ row ∈ c.rows, ∀ r ∈ row.version.references, c.Anchors row.version.subject.tenant r

/-- The references that a registration appends name stored versions. -/
theorem anchors_of_appends {c : Catalog} {tenant : String} {candidate : Candidate}
    {fidelity : Fidelity} {v : Version} (named : Subject.Named tenant v.subject)
    (appends : Registration.Appends c tenant v.subject candidate fidelity v) {r : Reference}
    (hr : r ∈ v.references) : c.Anchors v.subject.tenant r := by
  obtain ⟨given, -, hgiven⟩ := exists_of_mem_resolve appends.references hr
  obtain ⟨target, htarget, rfl, -, hstored⟩ := resolveReference_eq_ok hgiven
  obtain ⟨htenant, wellFormed⟩ := Subject.wellFormed_of_resolve htarget
  obtain ⟨raw, hraw⟩ := named
  rw [(Subject.wellFormed_of_resolve hraw).1]
  exact ⟨target, htenant, wellFormed, rfl, hstored⟩

/-- An operation that a plan came to keeps every reference. -/
theorem Anchored.perform {c : Catalog} (h : c.Anchored) {op : Op} (decided : c.Decides op) :
    (c.perform op).Anchored := by
  intro row hrow r hr
  -- On the catalog as it was, the reference names a stored version, whether the row is new or old.
  have before : c.Anchors row.version.subject.tenant r := by
    rcases mem_rows_perform hrow with ⟨v, rfl, rfl⟩ | ⟨old, hold, hlive, -⟩
    · obtain ⟨tenant, candidate, fidelity, named, appends⟩ := decided.of_register
      exact anchors_of_appends named appends hr
    · obtain ⟨hsubject, -, -, -, hreferences, -⟩ := Version.content_of_live_eq hlive
      rw [hsubject]
      exact h old hold r (hreferences ▸ hr)
  obtain ⟨target, htenant, wellFormed, hname, hstored⟩ := before
  refine ⟨target, htenant, wellFormed, hname, hstored.perform fun numbers hop hremoved => ?_⟩
  subst hop
  obtain ⟨removes, unused⟩ := decided.of_permanentDelete
  rcases mem_rows_perform hrow with ⟨v, hv, -⟩ | ⟨old, hold, hlive, -⟩
  · cases hv
  · obtain ⟨hsubject, hnumber, -, -, hreferences, -⟩ := Version.content_of_live_eq hlive
    -- Nobody else refers to what is removed, and the subject's own versions are removed with it.
    have own : old.version.subject = target := by
      by_contra other
      have huser := mem_referencedBy_iff.mpr
        ⟨⟨old, hold, rfl⟩, other, r, hreferences ▸ hr, hname, rfl⟩
      rw [unused r.version hremoved] at huser
      cases huser
    refine not_mem_rows_permanentDelete hrow (hsubject.trans own) ((removes _).mpr ?_)
    rw [hnumber, ← own]
    exact ⟨old, hold, rfl⟩

end Catalog

namespace History

variable {log : List Entry}

theorem anchored (h : History log) : (Catalog.ofEntries log).Anchored := by
  induction h with
  | empty =>
    intro row hrow
    cases hrow
  | append past decided now ih =>
    rw [past.ofEntries_next]
    exact ih.perform decided

/-- A stored reference resolves to a stored version, in the catalog of any prefix. That version is
what the reference resolved to when the version that carries it was registered. -/
theorem exists_referenced (h : History log) {k : Nat} {row : Row} {r : Reference}
    (hrow : row ∈ (Catalog.ofEntries (log.take k)).rows) (hr : r ∈ row.version.references) :
    ∃ target v, Subject.resolve row.version.subject.tenant r.subject = .ok target ∧
      (Catalog.ofEntries (log.take k)).get? target r.version = some v ∧
      ∃ p e w, p < k ∧ log[p]? = some e ∧ e.op = .register row.version.live ∧
        (Catalog.ofEntries (log.take p)).get? target r.version = some w ∧ v.live = w.live := by
  obtain ⟨target, htenant, wellFormed, hname, hstored⟩ := (h.take k).anchored row hrow r hr
  obtain ⟨v, hv⟩ := Option.isSome_iff_exists.mp (Catalog.isSome_get?_iff.mpr hstored)
  -- The moment of the registration, and what the reference named then.
  obtain ⟨p, e, hpk, hp, hop⟩ := h.exists_place hrow
  have decided := (h.of_getElem? hp).1
  rw [hop] at decided
  obtain ⟨tenant, candidate, fidelity, named, appends⟩ := decided.of_register
  obtain ⟨first, htenant', wellFormed', hname', hstored'⟩ :=
    Catalog.anchors_of_appends named appends (r := r) hr
  have hsame : first = target := by
    have hfirst := Subject.resolve_rendered wellFormed'
    have htarget := Subject.resolve_rendered wellFormed
    rw [← hname', htenant'] at hfirst
    rw [← hname, htenant] at htarget
    exact Except.ok.inj (hfirst.symm.trans htarget)
  subst hsame
  obtain ⟨w, hw⟩ := Option.isSome_iff_exists.mp (Catalog.isSome_get?_iff.mpr hstored')
  obtain ⟨hvkey, vrow, hvrow, rfl⟩ := Catalog.get?_eq_some hv
  obtain ⟨hwkey, wrow, hwrow, rfl⟩ := Catalog.get?_eq_some hw
  refine ⟨first, vrow.version, ?_, hv, p, e, wrow.version, hpk, hp, hop, hw, ?_⟩
  · have hresolve := Subject.resolve_rendered wellFormed
    rw [← hname, htenant] at hresolve
    exact hresolve
  · exact h.live_eq_of_key_eq hvrow hwrow (hvkey.trans hwkey.symm)

end History

end SchemaRegistry
