import SchemaRegistry.Proofs.Catalog.Refusal
/-!
# No schema is live twice under a subject

A registration looks for an equal live schema raw or normalized, as the caller asks, and appends
only if it finds none. Raw equality is the finer one: two schemas of one format, one raw canonical
text and the same references are equal in either way of looking. So whichever way each registration
looked, two live versions of a subject are never raw equal. A deletion leaves some of the live
versions, and a schema that was deleted can be registered anew.
-/

set_option autoImplicit false

namespace SchemaRegistry

theorem Version.live_eq_self {v : Version} (h : v.isDeleted = false) : v.live = v := by
  rw [live, ← h]

/-- Whether two versions of a subject have one schema: the format, the raw canonical text and the
references. -/
structure Version.Twins (v w : Version) : Prop where
  subject : v.subject = w.subject
  format : v.format = w.format
  canonical : canonicalize v.format v.text .raw = canonicalize w.format w.text .raw
  references : v.references = w.references

namespace Version.Twins

variable {v w : Version}

theorem symm (h : v.Twins w) : w.Twins v where
  subject := h.subject.symm
  format := h.format.symm
  canonical := h.canonical.symm
  references := h.references.symm

/-- One schema has one fingerprint, raw and normalized. -/
theorem fingerprint_eq (h : v.Twins w) {print : Fingerprint}
    (readable : v.fingerprint .raw = .ok print) (f : Fidelity) :
    v.fingerprint f = w.fingerprint f := by
  have texts : canonicalize v.format v.text f = canonicalize v.format w.text f := by
    have raw := h.canonical
    rw [← h.format] at raw
    cases f with
    | raw => exact raw
    | normalized =>
      rw [Version.fingerprint, SchemaRegistry.fingerprint] at readable
      cases hcanonical : canonicalize v.format v.text .raw with
      | error e =>
        rw [hcanonical] at readable
        cases readable
      | ok canonical => exact canonicalize_normalized_eq hcanonical (raw ▸ hcanonical)
  rw [Version.fingerprint, Version.fingerprint, SchemaRegistry.fingerprint,
    SchemaRegistry.fingerprint, texts, h.format, h.references]

end Version.Twins

/-! ## What a registration found -/

/-- A version that a registration appends differs from every live version of its subject, in the way
in which the registration looked. -/
theorem Registration.Appends.differs {c : Catalog} {tenant : String} {subject : Subject}
    {candidate : Candidate} {f : Fidelity} {v : Version}
    (appends : Appends c tenant subject candidate f v) (searches : Searches c) :
    ∃ print, v.fingerprint f = .ok print ∧
      ∀ w ∈ c.versions subject false, w.Differs f print := by
  obtain ⟨found, notFound, hfind⟩ := appends.unmatched
  have own : v.fingerprint f =
      Candidate.fingerprint { candidate with references := v.references } f := by
    rw [Version.fingerprint, Candidate.fingerprint, appends.format, appends.text]
  rw [own]
  cases found with
  | found w => exact absurd rfl (notFound w)
  | noSubject =>
    obtain ⟨print, hprint, none⟩ := (searches.noSubject _ _ _ _).mp hfind
    exact ⟨print, hprint, fun w hw => absurd hw (none ▸ List.not_mem_nil)⟩
  | noMatch =>
    obtain ⟨print, hprint, -, differ⟩ := (searches.noMatch _ _ _ _).mp hfind
    exact ⟨print, hprint, differ⟩

namespace Catalog

variable {c : Catalog} {op : Op} {v : Version}

/-- Whether no schema is live twice under a subject. -/
def Single (c : Catalog) : Prop :=
  ∀ subject, ∀ v ∈ c.versions subject false, ∀ w ∈ c.versions subject false, v.Twins w → v = w

theorem single_empty : empty.Single :=
  fun _ _ hv => absurd hv List.not_mem_nil

/-- What is live after an operation has been registered by it, or was live before. -/
theorem mem_versions_perform {subject : Subject} (h : v ∈ (c.perform op).versions subject false) :
    (op = .register v ∧ v.subject = subject) ∨ v ∈ c.versions subject false := by
  obtain ⟨⟨row, hrow, rfl⟩, hsubject, hlive⟩ := mem_versions_iff.mp h
  have live : row.version.isDeleted = false := by simpa [Version.isLive] using hlive
  rcases mem_rows_perform hrow with ⟨v, rfl, rfl⟩ | ⟨old, hold, same, kept⟩
  · exact Or.inl ⟨rfl, hsubject⟩
  · have oldLive : old.version.isDeleted = false := by
      cases hdeleted : old.version.isDeleted with
      | false => rfl
      | true =>
        rw [kept hdeleted] at live
        cases live
    have unchanged : row.version = old.version := by
      rw [← Version.live_eq_self live, same, Version.live_eq_self oldLive]
    exact Or.inr (mem_versions_iff.mpr ⟨⟨old, hold, unchanged.symm⟩, hsubject, hlive⟩)

/-- No operation that was decided on a catalog makes a schema live twice. -/
theorem Single.perform (h : c.Single) (readable : c.Readable) (searches : Searches c)
    (decided : c.Decides op) : (c.perform op).Single := by
  -- Whichever way the registration looked, it would have found a live version of the same schema.
  have apart : ∀ {v w : Version}, op = .register v → w ∈ c.versions v.subject false →
      ¬ w.Twins v := by
    rintro v w rfl hw twins
    obtain ⟨tenant, candidate, f, -, appends⟩ := decided.of_register
    obtain ⟨print, hprint, differ⟩ := appends.differs searches
    obtain ⟨other, hother, different⟩ := differ w hw
    obtain ⟨⟨row, hrow, rfl⟩, -⟩ := mem_versions_iff.mp hw
    obtain ⟨raw, hraw⟩ := readable row hrow .raw
    rw [twins.fingerprint_eq hraw f, hprint] at hother
    exact different (Except.ok.inj hother).symm
  intro subject v hv w hw twins
  rcases mem_versions_perform hv with ⟨hop, rfl⟩ | old
  · rcases mem_versions_perform hw with ⟨hop', -⟩ | old'
    · rw [hop] at hop'
      exact Op.register.inj hop'
    · exact absurd twins.symm (apart hop old')
  · rcases mem_versions_perform hw with ⟨hop', rfl⟩ | old'
    · exact absurd twins (apart hop' old)
    · exact h subject v old w old' twins

end Catalog

/-- No schema is live twice under a subject, at any time. -/
theorem History.single {log : List Entry} (h : History log) : (Catalog.ofEntries log).Single := by
  induction h with
  | empty => exact Catalog.single_empty
  | append past decided now ih =>
    rw [past.ofEntries_next]
    exact ih.perform past.readable
      ((Catalog.faithful_ofEntries _).searches (Catalog.sorted_ofEntries _)) decided

end SchemaRegistry
