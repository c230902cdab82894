import SchemaRegistry.Proofs.Cluster.Run
import SchemaRegistry.Proofs.Http.Forward
/-!
# Names that a registry prints

Under a tenant, names and subjects are told apart by rules that a reader of the grammar would not
expect to be free of doubt: a local name may begin with a colon, or with the tenant's own prefix, or
look like a context with a name behind it. `Subject.NameLaws` says that nothing is in doubt. The
subjects that names mean are the well-formed ones of the tenant, and the name that is printed for
such a subject means the subject again.

A registry stores subjects that some name was resolved to, under whatever tenant, and nothing else.
So a node that lists subjects of its tenant prints names under which it finds these subjects again.
-/

set_option autoImplicit false

namespace SchemaRegistry

/-! ## Names under a tenant -/

namespace Subject

/-- The names and the subjects of a tenant. -/
structure NameLaws (tenant : String) : Prop where
  /-- Names mean the well-formed subjects of the tenant, and all of them. -/
  named_iff : ∀ s : Subject, Named tenant s ↔ s.tenant = tenant ∧ s.WellFormed
  /-- What is printed for a subject means the subject. -/
  read_back : ∀ s : Subject, s.tenant = tenant → s.WellFormed → resolve tenant s.rendered = .ok s
  /-- Printing what a name means, and reading it again, changes nothing. -/
  idempotent : ∀ (raw : String) (s : Subject), resolve tenant raw = .ok s →
    resolve tenant s.rendered = .ok s
  /-- No two subjects of the tenant are printed alike. -/
  apart : ∀ s s' : Subject, Named tenant s → Named tenant s' → s.rendered = s'.rendered → s = s'

/-- **A name that a registry writes is read back as the same subject**, by every node of the tenant.
-/
theorem Named.resolve_rendered {tenant : String} {s : Subject} (h : Named tenant s) :
    resolve tenant s.rendered = .ok s := by
  obtain ⟨raw, hraw⟩ := h
  obtain ⟨rfl, wellFormed⟩ := wellFormed_of_resolve hraw
  exact Subject.resolve_rendered wellFormed

/-- Which subjects can be named at all is said here without reading any name. -/
theorem named_iff_wellFormed {tenant : String} {s : Subject} :
    Named tenant s ↔ s.tenant = tenant ∧ s.WellFormed := by
  constructor
  · intro ⟨raw, hraw⟩
    exact wellFormed_of_resolve hraw
  · rintro ⟨rfl, wellFormed⟩
    exact ⟨s.rendered, Subject.resolve_rendered wellFormed⟩

theorem nameLaws (tenant : String) : NameLaws tenant where
  named_iff _ := named_iff_wellFormed
  read_back s own wellFormed := (named_iff_wellFormed.mpr ⟨own, wellFormed⟩).resolve_rendered
  idempotent raw s h := Named.resolve_rendered ⟨raw, h⟩
  apart s s' h h' same := by
    have first := h.resolve_rendered
    have second := h'.resolve_rendered
    rw [same, second] at first
    exact (Except.ok.inj first).symm

/-- A pattern is about the subjects of the tenant under which it is read. -/
theorem Pattern.tenant_of_parse {tenant raw : String} {p : Pattern} (h : parse tenant raw = .ok p) :
    p.tenant = tenant := by
  unfold parse at h
  rcases hsplit : splitContext (dropTenant tenant raw.toList) with flaw | ⟨written, localPrefix⟩
  · simp [hsplit, bind, Except.bind] at h
  · rcases hcontext : context? raw written with flaw | context
    · simp [hsplit, hcontext, bind, Except.bind] at h
    · simp only [hsplit, hcontext, bind, Except.bind, pure, Except.pure, Except.ok.injEq] at h
      rw [← h]

end Subject

/-! ## Stored subjects -/

/-- Every stored subject is well-formed, under whatever tenant it was registered. -/
theorem History.wellFormed {log : List Entry} (h : History log) {row : Row}
    (hrow : row ∈ (Catalog.ofEntries log).rows) : row.version.subject.WellFormed := by
  obtain ⟨k, decided⟩ := h.exists_decided hrow
  obtain ⟨tenant, candidate, fidelity, ⟨raw, hraw⟩, -⟩ := decided.of_register
  exact (Subject.wellFormed_of_resolve hraw).2

theorem Catalog.mem_list_iff {c : Catalog} {pattern : Subject.Pattern} {includeDeleted : Bool}
    {s : Subject} :
    s ∈ c.list pattern includeDeleted ↔
      pattern.covers s = true ∧ c.hasSubject s includeDeleted = true := by
  have stored : c.hasSubject s includeDeleted = true ↔
      ∃ row ∈ c.rows, row.version.subject = s ∧ (includeDeleted || row.version.isLive) = true := by
    cases includeDeleted <;> simp [hasSubject, versions, rowsOf]
  rw [stored, list, List.mem_eraseDups, List.mem_map]
  constructor
  · rintro ⟨row, hrow, rfl⟩
    rw [List.mem_filter, Bool.and_eq_true] at hrow
    exact ⟨hrow.2.1, row, hrow.1, rfl, hrow.2.2⟩
  · rintro ⟨covered, row, hrow, rfl, visible⟩
    refine ⟨row, List.mem_filter.mpr ⟨hrow, ?_⟩, rfl⟩
    rw [covered, visible]
    rfl

theorem Catalog.exists_row_of_hasSubject {c : Catalog} {s : Subject} {includeDeleted : Bool}
    (h : c.hasSubject s includeDeleted = true) : ∃ row ∈ c.rows, row.version.subject = s := by
  rcases hversions : c.versions s includeDeleted with _ | ⟨v, rest⟩
  · simp [hasSubject, hversions] at h
  · have hv : v ∈ c.versions s includeDeleted := by simp [hversions]
    obtain ⟨⟨row, hrow, rfl⟩, hsubject, -⟩ := mem_versions_iff.mp hv
    exact ⟨row, hrow, hsubject⟩

/-! ## Listings -/

/-- Only a success is answered as one. -/
theorem Answer.exists_ok_of_status {α : Type} {json : α → Json} {outcome : Except Error α}
    (ok : (ofOutcome json outcome).status = 200) : ∃ x, outcome = .ok x := by
  rcases outcome with e | x
  · have failed := e.not_isSuccess
    have status : e.status = 200 := ok
    rw [status] at failed
    cases failed
  · exact ⟨x, rfl⟩

namespace Node

variable {n : Node} {log : List Entry}

/-- What a node lists it stores, and finds again by the name that it prints. -/
theorem resolve_of_list (past : History log) (follows : n.catalog.Follows log) {pattern : String}
    {includeDeleted : Bool} {subjects : List Subject}
    (listed : n.list pattern includeDeleted = .ok subjects) {s : Subject} (hs : s ∈ subjects) :
    n.hasSubject s includeDeleted = true ∧ n.resolve s.rendered = .ok s := by
  unfold list at listed
  split at listed
  · cases listed
  · rename_i read hread
    cases listed
    obtain ⟨covered, stored⟩ := Catalog.mem_list_iff.mp hs
    refine ⟨stored, ?_⟩
    -- The pattern is the serving tenant's, so the name is read under the tenant it is printed with.
    have own : s.tenant = n.settings.tenant := by
      rw [Subject.Pattern.covers, Bool.and_eq_true, Bool.and_eq_true, beq_iff_eq] at covered
      rw [covered.1.1, Subject.Pattern.tenant_of_parse hread]
    have wellFormed : s.WellFormed := by
      obtain ⟨row, hrow, rfl⟩ := Catalog.exists_row_of_hasSubject stored
      rw [follows.eq_ofEntries] at hrow
      exact (past.take _).wellFormed hrow
    rw [resolve, ← own, Subject.resolve_rendered wellFormed]
    rfl

/-- The body of a listing that succeeds is read as the names of what was listed. -/
theorem exists_list_of_answerList {o : Order} (ok : (n.answerList o).status = 200) :
    ∃ pattern subjects, n.list pattern (o.isOn "deleted") = .ok subjects ∧
      (Json.Shape.list .text).ofDocument (Text.octets (n.answerList o).body) =
        .ok (subjects.map Subject.rendered) := by
  obtain ⟨subjects, listed⟩ := Answer.exists_ok_of_status ok
  have printed : (n.answerList o).body =
      (Json.Shape.list .text).write (subjects.map Subject.rendered) := by
    have tree : (Json.Shape.list .text).tree (subjects.map Subject.rendered) =
        .array (subjects.map fun s => .text s.rendered) := by
      change Json.array ((subjects.map Subject.rendered).map Json.text) = _
      rw [List.map_map]
      rfl
    simp only [answerList, listed, Json.Shape.write, tree]
    rfl
  refine ⟨_, subjects, listed, ?_⟩
  rw [printed]
  exact Json.Shape.ofDocument_octets_write (by decide) (by decide) _

end Node

/-! ## Runs -/

namespace Cluster

/-- **Printed names mean what they are printed for.** Under every tenant the subjects that names
mean are the well-formed ones, and the name printed for one of them means it and no other. After any
run of a registry, whatever pattern a node is asked to list, the names in its answer are those of
stored subjects, and each is resolved by the node to the subject it was printed for. -/
theorem names_read_back (clock : Instant) (network : Outbound → Reply) (nodes : List Node)
    (events : List Event) :
    (∀ tenant, Subject.NameLaws tenant) ∧
      ∀ (i : Nat) (n : Node) (o : Order),
        ((found clock network nodes).run events).node? i = some n →
        (n.answerList o).status = 200 → ∃ subjects : List Subject,
          (Json.Shape.list .text).ofDocument (Text.octets (n.answerList o).body) =
            .ok (subjects.map Subject.rendered) ∧
          ∀ s ∈ subjects, n.hasSubject s (o.isOn "deleted") = true ∧
            n.resolve s.rendered = .ok s := by
  refine ⟨Subject.nameLaws, ?_⟩
  intro i n o hn ok
  obtain ⟨log, hsound⟩ := exists_history clock network nodes events
  obtain ⟨pattern, subjects, listed, printed⟩ := Node.exists_list_of_answerList ok
  exact ⟨subjects, printed, fun s hs =>
    Node.resolve_of_list hsound.history (hsound.follows hn) listed hs⟩

/-- Registrations under names that look like something else: one local name begins with a colon, and
one with the prefix of the tenant `acme`. -/
def lookalikes : List Event :=
  let register (name text : String) : Event :=
    .register 0 [] name { format := .protobuf, references := [], text } false none
  [register ":.::x" "a", register "acme_acme_orders" "b"]

/-- A request for all subjects. -/
def everything : Order :=
  { action := .list, subject := "", parameters := [] }

theorem lookalikes_read_back :
    ∃ n, ((found default (fun _ => .unreachable) [{ settings := { tenant := "acme" } }]).run
        lookalikes).node? 0 = some n ∧
      (n.answerList everything).body = r#"["acme_:.::x","acme_acme_orders"]"# ∧
      n.resolve "acme_:.::x" = .ok ⟨"acme", ".", ":x"⟩ ∧
      ∃ subjects : List Subject,
        (Json.Shape.list .text).ofDocument (Text.octets (n.answerList everything).body) =
          .ok (subjects.map Subject.rendered) ∧
        ∀ s ∈ subjects, n.resolve s.rendered = .ok s := by
  have printed : (((found default (fun _ => .unreachable)
      [{ settings := { tenant := "acme" } }]).run lookalikes).node? 0).map (fun n =>
        (n.settings.tenant, (n.answerList everything).status, (n.answerList everything).body)) =
        some ("acme", 200, r#"["acme_:.::x","acme_acme_orders"]"#) := by
    decide +kernel
  obtain ⟨n, hn, facts⟩ := Option.map_eq_some_iff.mp printed
  simp only [Prod.mk.injEq] at facts
  obtain ⟨tenant, status, body⟩ := facts
  obtain ⟨subjects, read, back⟩ := (names_read_back _ _ _ lookalikes).2 0 n everything hn status
  refine ⟨n, hn, body, ?_, subjects, read, fun s hs => (back s hs).2⟩
  rw [Node.resolve, tenant]
  rfl

end Cluster

end SchemaRegistry
