import Mathlib.Data.Set.Function
import SchemaRegistry.Proofs.Catalog.Search
import SchemaRegistry.Proofs.Schema.Canonical
import SchemaRegistry.Proofs.Schema.Fingerprint
import SchemaRegistry.Proofs.Subject.Rendered
/-!
# Telling schemas apart by their fingerprints

What a registry takes fingerprints of are canonical texts and references that a catalog has
resolved. Nearly all of these have no zero character: not the documents of AVRO and JSON, and not
the names of the subjects that references resolve to, as long as the tenant's name has none. It is
left to PROTOBUF texts and to the names under which types are used. Where they have none either,
imprints can be told apart by what is hashed, and then a search finds equal schemas only.

A hash cannot tell all sequences apart. What is assumed is that it has told apart those that have
been hashed so far.
-/

set_option autoImplicit false

namespace SchemaRegistry

/-! ## Where imprints come from -/

/-- A canonical document has no control character. -/
theorem uncontrolled_of_canonicalize {format : Format} {text canonical : String} {f : Fidelity}
    (h : canonicalize format text f = .ok canonical) (document : format ≠ .protobuf) :
    Uncontrolled canonical.toList := by
  obtain ⟨x, hx, rfl⟩ := Canonical.exists_content h
  cases x with
  | document tree =>
    cases f <;>
    · change Uncontrolled (String.ofList _).toList
      rw [String.toList_ofList]
      exact Json.uncontrolled_chars _
  | lines ls => exact absurd (Canonical.Content.of_content hx).1 document

/-- The name of a well-formed subject has no zero character besides those of its tenant. -/
theorem Subject.zero_notMem_rendered {s : Subject} (h : s.WellFormed)
    (tenant : '\x00' ∉ s.tenant.toList) : '\x00' ∉ s.rendered.toList := by
  -- A context has its own characters, and a local name no control characters. Only the tenant is
  -- not checked.
  have context : '\x00' ∉ s.context.toList := by
    intro hmem
    have allowed := List.all_eq_true.mp h.characters _ hmem
    exact absurd allowed (by decide)
  have localName : '\x00' ∉ s.localName.toList := by
    intro hmem
    have control := List.any_eq_false.mp h.printable _ hmem
    exact absurd control (by decide)
  have hcolon : '\x00' ∉ ":".toList := by decide
  have hbar : '\x00' ∉ "_".toList := by decide
  have htenant : '\x00' ∉ (tenantText s.tenant).toList := by
    unfold tenantText
    split
    · exact List.not_mem_nil
    · rw [String.toList_append, List.mem_append, not_or]
      exact ⟨tenant, hbar⟩
  have hcontext : '\x00' ∉ (contextText s.context s.localName).toList := by
    unfold contextText
    split
    · rw [String.toList_append, String.toList_append, List.mem_append, List.mem_append, not_or,
        not_or]
      exact ⟨⟨hcolon, context⟩, hcolon⟩
    · exact List.not_mem_nil
  rw [rendered, String.toList_append, String.toList_append, List.mem_append, List.mem_append,
    not_or, not_or]
  exact ⟨⟨htenant, hcontext⟩, localName⟩

/-- A resolved reference carries a name without the zero character. -/
theorem Catalog.zero_notMem_of_resolve {c : Catalog} {tenant : String}
    {given resolved : List Reference} (h : c.resolve tenant given = .ok resolved)
    (plain : '\x00' ∉ tenant.toList) {r : Reference} (hr : r ∈ resolved) :
    '\x00' ∉ r.subject.toList := by
  obtain ⟨first, -, hfirst⟩ := exists_of_mem_resolve h hr
  obtain ⟨subject, hsubject, rfl, -, -⟩ := resolveReference_eq_ok hfirst
  obtain ⟨htenant, wellFormed⟩ := Subject.wellFormed_of_resolve hsubject
  exact Subject.zero_notMem_rendered wellFormed (htenant ▸ plain)

/-- Whether the imprint is one that a registry may come upon, and what can hold a zero character in
it does not: the lines of PROTOBUF, the names under which types are used, and the tenant. -/
structure Imprint.Plain (i : Imprint) : Prop where
  canonical : ∃ text f, canonicalize i.format text f = .ok i.canonical
  resolved : ∃ (c : Catalog) (tenant : String) (given : List Reference),
    '\x00' ∉ tenant.toList ∧ c.resolve tenant given = .ok i.references
  lines : i.format = .protobuf → '\x00' ∉ i.canonical.toList
  names : ∀ r ∈ i.references, '\x00' ∉ r.name.toList

/-- What has no zero in its texts ends each of them where the next field begins. -/
theorem Imprint.Plain.unmarked {i : Imprint} (h : i.Plain) : i.Unmarked where
  canonical := by
    by_cases hformat : i.format = .protobuf
    · exact h.lines hformat
    · obtain ⟨text, f, hcanonical⟩ := h.canonical
      exact (uncontrolled_of_canonicalize hcanonical hformat).zero_notMem
  references := by
    intro r hr
    obtain ⟨c, tenant, given, plain, hresolved⟩ := h.resolved
    exact ⟨h.names r hr, Catalog.zero_notMem_of_resolve hresolved plain hr⟩

/-! ## The imprints of versions and candidates -/

/-- The imprint of a schema, or why the text is no schema. -/
def imprint (format : Format) (text : String) (references : List Reference) (f : Fidelity) :
    Except Error Imprint :=
  (canonicalize format text f).map fun canonical => { format, canonical, references }

def Candidate.imprint (c : Candidate) (f : Fidelity) : Except Error Imprint :=
  SchemaRegistry.imprint c.format c.text c.references f

def Version.imprint (v : Version) (f : Fidelity) : Except Error Imprint :=
  SchemaRegistry.imprint v.format v.text v.references f

/-- A fingerprint is the hash of the octets of an imprint, and it fails only where there is no
imprint. -/
theorem fingerprint_eq_map_imprint (format : Format) (text : String) (references : List Reference)
    (f : Fidelity) :
    fingerprint format text references f =
      (imprint format text references f).map Imprint.fingerprint := by
  unfold fingerprint imprint
  cases canonicalize format text f <;> rfl

theorem exists_imprint {format : Format} {text : String} {references : List Reference}
    {f : Fidelity} {print : Fingerprint} (h : fingerprint format text references f = .ok print) :
    ∃ i, imprint format text references f = .ok i ∧ i.fingerprint = print := by
  rw [fingerprint_eq_map_imprint] at h
  cases hi : imprint format text references f with
  | error e =>
    rw [hi] at h
    cases h
  | ok i =>
    rw [hi] at h
    exact ⟨i, rfl, Except.ok.inj h⟩

theorem Version.exists_imprint {v : Version} {f : Fidelity} {print : Fingerprint}
    (h : v.fingerprint f = .ok print) :
    ∃ i, v.imprint f = .ok i ∧ i.fingerprint = print :=
  SchemaRegistry.exists_imprint h

/-- An imprint has the canonical text of the schema. -/
theorem imprint_eq_ok {format : Format} {text : String} {references : List Reference} {f : Fidelity}
    {i : Imprint} (h : imprint format text references f = .ok i) :
    canonicalize format text f = .ok i.canonical ∧ i.format = format ∧
      i.references = references := by
  unfold imprint at h
  cases hcanonical : canonicalize format text f with
  | error e =>
    rw [hcanonical] at h
    cases h
  | ok canonical =>
    rw [hcanonical] at h
    cases h
    exact ⟨rfl, rfl, rfl⟩

theorem Candidate.fingerprint_of_imprint {c : Candidate} {f : Fidelity} {i : Imprint}
    (h : c.imprint f = .ok i) : c.fingerprint f = .ok i.fingerprint := by
  unfold Candidate.fingerprint
  rw [fingerprint_eq_map_imprint]
  change (c.imprint f).map _ = _
  rw [h]
  rfl

/-! ## What fingerprints tell apart -/

/-- What can be told apart where the sequences of `hashed` are the ones that were hashed. -/
structure Separates (hashed : Set Octets) : Prop where
  /-- What is hashed tells plain imprints apart. -/
  encoding : ∀ {a b : Imprint}, a.Plain → b.Plain → (a.encoding = b.encoding ↔ a = b)
  /-- So do their fingerprints. -/
  fingerprint : ∀ {a b : Imprint}, a.Plain → b.Plain → a.encoding ∈ hashed → b.encoding ∈ hashed →
    (a.fingerprint = b.fingerprint ↔ a = b)
  /-- A version that is found under a subject has the imprint of the candidate. -/
  found : ∀ {log : List Entry} {subject : Subject} {candidate : Candidate} {f : Fidelity}
    {includeDeleted : Bool} {v : Version} {a : Imprint}, candidate.imprint f = .ok a →
    (Catalog.ofEntries log).find subject candidate f includeDeleted = .ok (.found v) →
    ∃ b, v.imprint f = .ok b ∧
      (a.Plain → b.Plain → a.encoding ∈ hashed → b.encoding ∈ hashed → b = a)
  /-- An id that is found for a candidate is the id of a version of the candidate's imprint. -/
  foundId : ∀ {log : List Entry} {id : Int64} {a : Imprint},
    (Catalog.ofEntries log).findId a.fingerprint = .ok (some id) →
    ∃ row ∈ (Catalog.ofEntries log).rows, row.version.id = id ∧
      ∃ b, row.version.imprint .raw = .ok b ∧
        (a.Plain → b.Plain → a.encoding ∈ hashed → b.encoding ∈ hashed → b = a)

/-- Fingerprints separate schemas, as far as the hash has no collision and no zero character is
mistaken for a separator. -/
theorem separates_of_injOn {hashed : Set Octets} (collisionFree : hashed.InjOn Sha256.hash) :
    Separates hashed := by
  have encoding : ∀ {a b : Imprint}, a.Plain → b.Plain → (a.encoding = b.encoding ↔ a = b) :=
    fun ha hb => ⟨Imprint.encoding_injective ha.unmarked hb.unmarked, congrArg _⟩
  have fingerprint : ∀ {a b : Imprint}, a.Plain → b.Plain → a.encoding ∈ hashed →
      b.encoding ∈ hashed → (a.fingerprint = b.fingerprint ↔ a = b) := by
    intro a b ha hb hashedA hashedB
    rw [Imprint.fingerprint_eq_iff, collisionFree.eq_iff hashedA hashedB]
    exact encoding ha hb
  refine ⟨encoding, fingerprint, fun {log} _ _ _ _ _ a hcandidate hfound => ?_,
    fun {log id a} hfound => ?_⟩
  · obtain ⟨-, wanted, hwanted, hprint⟩ := (Catalog.faithful_ofEntries log).of_find hfound
    rw [Candidate.fingerprint_of_imprint hcandidate] at hwanted
    cases hwanted
    obtain ⟨b, hb, same⟩ := Version.exists_imprint hprint
    exact ⟨b, hb, fun plain plain' ha hb => (fingerprint plain' plain hb ha).mp same⟩
  · obtain ⟨row, hrow, hid, hprint⟩ := (Catalog.faithful_ofEntries log).of_findId hfound
    obtain ⟨b, hb, same⟩ := Version.exists_imprint hprint
    exact ⟨row, hrow, hid, b, hb,
      fun plain plain' ha hb => (fingerprint plain' plain hb ha).mp same⟩

/-- A subject of the default tenant. -/
def plainSubject (localName : String) : Subject :=
  { tenant := "default", context := ".", localName }

/-- A version of `t` that uses the one version of `s` under the name `n`. -/
def usingVersion : Version :=
  { subject := plainSubject "t", number := 1, id := 2, format := .protobuf
    references := [{ name := "n", subject := "s", version := 1 }], text := "a", isDeleted := false }

/-- A log that registers the one and the other. -/
def usingLog : List Entry :=
  let used : Version :=
    { subject := plainSubject "s", number := 1, id := 1, format := .protobuf, references := []
      text := "a", isDeleted := false }
  [{ offset := 1, op := .register used, appendedAt := default },
    { offset := 2, op := .register usingVersion, appendedAt := default }]

/-- The imprint of the version of `t`. -/
def usingImprint : Imprint :=
  { format := .protobuf, canonical := "a", references := usingVersion.references }

/-- The imprint of a schema without references. -/
def otherImprint : Imprint :=
  { format := .protobuf, canonical := "b", references := [] }

theorem separates_using_other :
    usingImprint.Plain ∧ otherImprint.Plain ∧
      Set.InjOn Sha256.hash { usingImprint.encoding, otherImprint.encoding } ∧
      Separates { usingImprint.encoding, otherImprint.encoding } := by
  have collisionFree : Set.InjOn Sha256.hash { usingImprint.encoding, otherImprint.encoding } := by
    have different : Sha256.hash usingImprint.encoding ≠ Sha256.hash otherImprint.encoding := by
      decide +kernel
    rintro x (rfl | rfl) y (rfl | rfl) same
    · rfl
    · exact absurd same different
    · exact absurd same.symm different
    · rfl
  refine ⟨⟨⟨"a", .raw, by decide +kernel⟩, ?_, fun _ => by decide, by decide⟩,
    ⟨⟨"b", .raw, by decide +kernel⟩, ?_, fun _ => by decide, by decide⟩, collisionFree,
    separates_of_injOn collisionFree⟩
  · exact ⟨.ofEntries usingLog, "default", usingVersion.references, by decide, by decide +kernel⟩
  · exact ⟨.empty, "default", [], by decide, rfl⟩

/-- The imprint of a schema without references whose text goes on as the other's references do. -/
def lookalike : Imprint :=
  { format := .protobuf, canonical := "a\x00n\x00s\x00\x00\x00\x00\x01", references := [] }

/-- Two imprints that a registry comes upon have one encoding, and a search for the one finds a
version of the other. -/
theorem lookalike_found :
    canonicalize .protobuf "a" .raw = .ok usingImprint.canonical ∧
      (Catalog.ofEntries usingLog).resolve "default" usingVersion.references =
        .ok usingImprint.references ∧
      canonicalize .protobuf lookalike.canonical .raw = .ok lookalike.canonical ∧
      (Catalog.ofEntries usingLog).resolve "default" [] = .ok lookalike.references ∧
      usingImprint ≠ lookalike ∧ usingImprint.encoding = lookalike.encoding ∧
      (Catalog.ofEntries usingLog).find (plainSubject "t")
        { format := .protobuf, references := [], text := lookalike.canonical } .raw false =
          .ok (.found usingVersion) :=
  ⟨by decide +kernel, by decide +kernel, by decide +kernel, rfl, by decide, by decide +kernel,
    by decide +kernel⟩

end SchemaRegistry
