import SchemaRegistry.Proofs.Catalog.Tenants
import SchemaRegistry.Proofs.Log.References
import SchemaRegistry.Proofs.Log.Store
/-!
# Tenants that share a log

The entries of one tenant, taken out of a shared log, lead to the tenant's part of the shared
catalog. So a tenant reads of its subjects what it would read if it had the log to itself, and the
same holds of what its deletions come to, apart from one case. A permanent deletion is also refused
if a version of another tenant refers to a subject of its own that has the same name and version.
-/

set_option autoImplicit false

namespace SchemaRegistry

/-- The entries about subjects of the tenant. -/
def ofTenant (tenant : String) (log : List Entry) : List Entry :=
  log.filter fun e => e.op.isOf tenant

/-! ## The catalog of the tenant's entries -/

/-- Offsets that count from one ascend, and there are no gaps in them. -/
theorem Contiguous.ascending {log : List Entry} (h : Contiguous log) : Ascending log where
  positive := by
    intro e he
    obtain ⟨k, hk⟩ := List.mem_iff_getElem?.mp he
    have offset := h k e hk
    omega
  ordered := by
    rw [List.pairwise_iff_getElem]
    intro i j hi hj hij
    have first := h i log[i] (List.getElem?_eq_getElem hi)
    have second := h j log[j] (List.getElem?_eq_getElem hj)
    omega

/-- With the entries of other tenants left out the offsets have gaps, and they still ascend. -/
theorem Ascending.filter {log : List Entry} (h : Ascending log) (p : Entry → Bool) :
    Ascending (log.filter p) where
  positive e he := h.positive e (List.mem_filter.mp he).1
  ordered := h.ordered.filter p

theorem Ascending.of_concat {log : List Entry} {e : Entry} (h : Ascending (log ++ [e])) :
    Ascending log ∧ (Catalog.ofEntries log).applied < e.offset := by
  refine ⟨⟨fun d hd => h.positive d (List.mem_append_left _ hd), ?_⟩, ?_⟩
  · exact (List.pairwise_append.mp h.ordered).1
  · exact h.applied_between.2 e (List.mem_singleton_self e)

/-- **A tenant's part of the log gives its part of the catalog.** The entries of others change no
row of the tenant, and the order of its own is that of the whole log. -/
theorem Ascending.isPart {log : List Entry} (h : Ascending log) (tenant : String) :
    Catalog.IsPart tenant (.ofEntries (ofTenant tenant log)) (.ofEntries log) := by
  induction log using List.reverseRecOn with
  | nil => rfl
  | append_singleton log e ih =>
    obtain ⟨hlog, ahead⟩ := h.of_concat
    have sorted := Catalog.sorted_ofEntries log
    have own := h.filter fun e => e.op.isOf tenant
    unfold ofTenant at ih ⊢
    rw [List.filter_append] at own ⊢
    rw [Catalog.ofEntries_append log, Catalog.applyAll_singleton ahead]
    cases he : e.op.isOf tenant with
    | true =>
      have last : [e].filter (fun e => e.op.isOf tenant) = [e] := List.filter_cons_of_pos he
      rw [last] at own ⊢
      rw [Catalog.ofEntries_append, Catalog.applyAll_singleton own.of_concat.2]
      exact (ih hlog).perform sorted he
    | false =>
      have last : [e].filter (fun e => e.op.isOf tenant) = [] :=
        List.filter_cons_of_neg (Bool.eq_false_iff.mp he)
      rw [last, List.append_nil]
      exact (ih hlog).perform_other sorted he

/-! ## What tenants see of each other -/

/-- A reference of another tenant is mistaken for one to the subject only if that tenant has a
subject of the same name. -/
theorem History.exists_namesake {log : List Entry} (h : History log) {subject : Subject}
    (mistaken : (Catalog.ofEntries log).Mistaken subject) :
    ∃ (other : Subject) (n : UInt32), other.tenant ≠ subject.tenant ∧
      other.rendered = subject.rendered ∧ (Catalog.ofEntries log).Stores (other, n) := by
  obtain ⟨row, hrow, foreign, n, -, refers⟩ := mistaken
  rw [Catalog.refersTo, List.any_eq_true] at refers
  obtain ⟨r, hr, hnames⟩ := refers
  rw [Bool.and_eq_true, beq_iff_eq, beq_iff_eq] at hnames
  obtain ⟨target, htenant, -, hname, hstored⟩ := h.anchored row hrow r hr
  exact ⟨target, r.version, htenant ▸ foreign, hname.symm.trans hnames.1, hstored⟩

/-- What the catalog of a shared log has in common with the catalog of one tenant's entries, for the
subjects of the tenant. -/
structure Apart (tenant : String) (part whole : Catalog) : Prop where
  state : ∀ {s : Subject}, s.tenant = tenant → part.state s = whole.state s
  hasSubject : ∀ {s : Subject} (includeDeleted : Bool), s.tenant = tenant →
    part.hasSubject s includeDeleted = whole.hasSubject s includeDeleted
  versions : ∀ {s : Subject} (includeDeleted : Bool), s.tenant = tenant →
    part.versions s includeDeleted = whole.versions s includeDeleted
  list : ∀ {pattern : Subject.Pattern} (includeDeleted : Bool), pattern.tenant = tenant →
    part.list pattern includeDeleted = whole.list pattern includeDeleted
  find : ∀ {s : Subject} (candidate : Candidate) (f : Fidelity) (includeDeleted : Bool),
    s.tenant = tenant →
    part.find s candidate f includeDeleted = whole.find s candidate f includeDeleted
  softDeletion : ∀ {s : Subject}, s.tenant = tenant →
    Deletion.plan part s .soft = Deletion.plan whole s .soft
  /-- A permanent deletion comes to the same, unless a reference of another tenant is mistaken. -/
  permanentDeletion : ∀ {s : Subject}, s.tenant = tenant →
    (whole.state s = .softDeleted → ¬ whole.Mistaken s) →
    Deletion.plan part s .permanent = Deletion.plan whole s .permanent
  /-- A mistaken reference has the permanent deletion refused. -/
  refusal : ∀ {s : Subject}, whole.state s = .softDeleted → whole.Mistaken s →
    ∃ text, Deletion.plan whole s .permanent = .error (.referenceExists text)
  /-- A reference is mistaken only if another tenant has a subject of the same name. -/
  namesake : ∀ {s : Subject}, whole.Mistaken s → ∃ (other : Subject) (n : UInt32),
    other.tenant ≠ s.tenant ∧ other.rendered = s.rendered ∧ whole.Stores (other, n)

/-- So two tenants are apart whatever history they share. -/
theorem History.apart {log : List Entry} (h : History log) (tenant : String) :
    Apart tenant (.ofEntries (ofTenant tenant log)) (.ofEntries log) := by
  have parts := h.contiguous.ascending.isPart tenant
  refine ⟨fun own => ?_, fun b own => ?_, fun b own => ?_, fun b own => ?_, fun c f b own => ?_,
    fun own => ?_, fun own clear => ?_, fun state mistaken => ?_, fun mistaken => ?_⟩
  · exact parts.state own
  · exact parts.hasSubject own b
  · exact parts.versions own b
  · exact parts.list own b
  · exact parts.find own c f b
  · exact Deletion.plan_soft_eq parts own
  · exact Deletion.plan_permanent_eq parts own clear
  · exact Deletion.plan_permanent_of_mistaken mistaken state
  · exact h.exists_namesake mistaken

end SchemaRegistry
