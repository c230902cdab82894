import SchemaRegistry.Proofs.Catalog.Decision
import SchemaRegistry.Proofs.Catalog.Order
/-!
# The part of a catalog that belongs to a tenant

Tenants share a log, and most of what one of them reads does not depend on what the others have
written. The rows of a tenant's subjects are the rows of the catalog that the tenant's own entries
lead to: an operation changes rows of its own subject only, and where a row is put does not depend
on rows of other tenants. Whatever is read of a subject goes through its rows, so it is the same in
both catalogs.

There is one exception. The guard of permanent deletions looks for a name among the references of
all rows. Two tenants can have subjects of one name: the subject `orders` of the tenant `acme` and
the subject `acme_orders` of the default tenant are both written `acme_orders`. So a version of
another tenant may be taken for a user of a subject that it does not mean, and what the guard does
then is told here as well.
-/

set_option autoImplicit false

namespace SchemaRegistry

/-- Whether the operation is about a subject of the tenant. -/
def Op.isOf (tenant : String) (op : Op) : Bool :=
  op.subject.tenant == tenant

/-- Whether the row belongs to a subject of the tenant. -/
def Row.isOf (tenant : String) (row : Row) : Bool :=
  row.version.subject.tenant == tenant

/-! ## Rows of one tenant -/

namespace Row

variable {tenant : String} {rows : List Row}

/-- A key has the subject in it, and the subject its tenant. -/
theorem isOf_eq_of_sameKey {a b : Row} (h : a.sameKey b = true) :
    a.isOf tenant = b.isOf tenant := by
  rw [isOf, isOf, (Version.key_eq_iff.mp (sameKey_iff.mp h)).1]

theorem insert_eq_cons {row : Row} (h : ∀ other ∈ rows, row.isBefore other = true) :
    row.insert rows = row :: rows := by
  cases rows with
  | nil => rfl
  | cons first rest => rw [insert, if_pos (h first List.mem_cons_self)]

/-- A row finds its place among the rows of its tenant as it does among all rows. -/
theorem filter_insert (h : InOrder rows) (row : Row) :
    (row.insert rows).filter (isOf tenant) =
      if row.isOf tenant = true then row.insert (rows.filter (isOf tenant))
      else rows.filter (isOf tenant) := by
  induction rows with
  | nil =>
    simp only [insert, List.filter_cons, List.filter_nil]
  | cons first rest ih =>
    obtain ⟨hfirst, hrest⟩ := List.pairwise_cons.mp h
    rw [insert]
    split
    · rename_i before
      -- A row in front of the first is in front of all, and so in front of those of its tenant.
      have front : ∀ other ∈ (first :: rest).filter (isOf tenant), row.isBefore other = true := by
        intro other hother
        rw [isBefore_iff] at before ⊢
        rcases List.mem_cons.mp (List.mem_filter.mp hother).1 with rfl | hother
        · exact before
        · exact before.trans (hfirst other hother)
      rw [insert_eq_cons front, List.filter_cons]
    · rename_i before
      split
      · rename_i same
        rw [List.filter_cons, List.filter_cons, isOf_eq_of_sameKey same]
        split
        · rw [insert, if_neg before, if_pos same]
        · rfl
      · rename_i same
        rw [List.filter_cons, List.filter_cons, ih hrest]
        by_cases hof : first.isOf tenant = true
        · simp only [if_pos hof]
          split
          · rw [insert, if_neg before, if_neg same]
          · rfl
        · simp only [if_neg hof]

end Row

namespace Catalog

/-! ## A tenant's part -/

/-- Whether the rows of a catalog are those that another has of the tenant. -/
def IsPart (tenant : String) (part whole : Catalog) : Prop :=
  part.rows = whole.rows.filter (Row.isOf tenant)

variable {tenant : String} {part whole : Catalog}

/-- A deletion is about the rows of one subject, and so of one tenant. -/
theorem isOf_eq_of_isAmong {subject : Subject} {numbers : List UInt32} {row : Row}
    (h : row.isAmong subject numbers = true) : row.isOf tenant = (subject.tenant == tenant) := by
  rw [Row.isOf, (Row.isAmong_iff.mp h).1]

/-- An operation of the tenant does to the part what it does to the whole. -/
theorem IsPart.perform (h : IsPart tenant part whole) (sorted : whole.Sorted) {op : Op}
    (hop : op.isOf tenant = true) : IsPart tenant (part.perform op) (whole.perform op) := by
  unfold IsPart at h ⊢
  cases op with
  | register v =>
    have own : (Row.ofVersion v).isOf tenant = true := hop
    change (Row.ofVersion v).insert part.rows = ((Row.ofVersion v).insert whole.rows).filter _
    rw [Row.filter_insert sorted, if_pos own, h]
  | softDelete subject numbers =>
    change part.rows.map _ = (whole.rows.map _).filter _
    rw [h, List.filter_map]
    congr 2
    funext row
    -- A mark leaves a row to its tenant.
    simp only [Function.comp_apply]
    split <;> rfl
  | permanentDelete subject numbers =>
    change part.rows.filter _ = (whole.rows.filter _).filter _
    rw [h, List.filter_filter, List.filter_filter]
    congr 1
    funext row
    exact Bool.and_comm _ _

/-- An operation of another tenant leaves the part as it is. -/
theorem IsPart.perform_other (h : IsPart tenant part whole) (sorted : whole.Sorted) {op : Op}
    (hop : op.isOf tenant = false) : IsPart tenant part (whole.perform op) := by
  -- No row of the tenant is among the versions of the operation.
  have spared : ∀ {subject : Subject} {numbers : List UInt32} {row : Row},
      (subject.tenant == tenant) = false → row.isOf tenant = true →
        row.isAmong subject numbers = false := by
    intro subject numbers row hsubject hrow
    rw [Bool.eq_false_iff]
    intro among
    rw [isOf_eq_of_isAmong among, hsubject] at hrow
    cases hrow
  unfold IsPart at h ⊢
  rw [h]
  cases op with
  | register v =>
    have foreign : ¬ (Row.ofVersion v).isOf tenant = true := Bool.eq_false_iff.mp hop
    change _ = ((Row.ofVersion v).insert whole.rows).filter _
    rw [Row.filter_insert sorted, if_neg foreign]
  | softDelete subject numbers =>
    change _ = (whole.rows.map _).filter _
    rw [List.filter_map]
    have kept : (Row.isOf tenant ∘ fun row =>
        if row.isAmong subject numbers then row.markDeleted else row) = Row.isOf tenant := by
      funext row
      simp only [Function.comp_apply]
      split <;> rfl
    rw [kept]
    symm
    apply (List.map_congr_left ?_).trans (List.map_id _)
    intro row hrow
    have untouched : row.isAmong subject numbers = false := spared hop (List.mem_filter.mp hrow).2
    rw [untouched]
    rfl
  | permanentDelete subject numbers =>
    change _ = (whole.rows.filter _).filter _
    rw [List.filter_filter]
    apply List.filter_congr
    intro row _
    by_cases hrow : row.isOf tenant = true
    · have untouched : row.isAmong subject numbers = false := spared hop hrow
      rw [hrow, untouched]
      rfl
    · rw [Bool.eq_false_iff.mpr hrow]
      rfl

/-! ## Reading the part -/

section Reading

variable (h : IsPart tenant part whole) {subject : Subject} (own : subject.tenant = tenant)

include h own

/-- A subject has all its rows in the part that its tenant has. -/
theorem IsPart.rowsOf (includeDeleted : Bool) :
    part.rowsOf subject includeDeleted = whole.rowsOf subject includeDeleted := by
  unfold Catalog.rowsOf
  rw [h, List.filter_filter]
  apply List.filter_congr
  intro row _
  by_cases hsubject : row.version.subject = subject
  · have hrow : row.isOf tenant = true := by
      rw [Row.isOf, hsubject, own, beq_self_eq_true]
    rw [hrow, Bool.and_true]
  · rw [beq_false_of_ne hsubject, Bool.false_and, Bool.false_and]

theorem IsPart.versions (includeDeleted : Bool) :
    part.versions subject includeDeleted = whole.versions subject includeDeleted := by
  rw [Catalog.versions, h.rowsOf own, Catalog.versions]

/-- Nothing that other tenants have makes a subject be there. -/
theorem IsPart.hasSubject (includeDeleted : Bool) :
    part.hasSubject subject includeDeleted = whole.hasSubject subject includeDeleted := by
  rw [Catalog.hasSubject, h.versions own, Catalog.hasSubject]

/-- Nor does it change what state the subject is in. -/
theorem IsPart.state : part.state subject = whole.state subject := by
  rw [Catalog.state, h.versions own, Catalog.state]

/-- A search under a subject reads that subject's versions only. -/
theorem IsPart.find (candidate : Candidate) (f : Fidelity) (includeDeleted : Bool) :
    part.find subject candidate f includeDeleted =
      whole.find subject candidate f includeDeleted := by
  rw [Catalog.find, h.rowsOf own, Catalog.find]

/-- A deletion names what the subject has, and that is the same. -/
theorem IsPart.targets (mode : DeletionMode) :
    Deletion.targets part subject mode = Deletion.targets whole subject mode := by
  rw [Deletion.targets, h.versions own, Deletion.targets]

end Reading

/-- A listing goes by a pattern that names its tenant, so no other tenant's subjects are looked at.
-/
theorem IsPart.list (h : IsPart tenant part whole) {pattern : Subject.Pattern}
    (own : pattern.tenant = tenant) (includeDeleted : Bool) :
    part.list pattern includeDeleted = whole.list pattern includeDeleted := by
  unfold Catalog.list
  rw [h, List.filter_filter]
  congr 2
  apply List.filter_congr
  intro row _
  by_cases hrow : row.version.subject.tenant = tenant
  · have hrow' : row.isOf tenant = true := by
      rw [Row.isOf, hrow, beq_self_eq_true]
    rw [hrow', Bool.and_true]
  · rw [Subject.Pattern.covers, own, beq_false_of_ne hrow]
    simp only [Bool.false_and]

/-! ## Users of another tenant -/

/-- Whether a version of another tenant has a reference that is written like one to a stored version
of the subject. -/
def Mistaken (c : Catalog) (subject : Subject) : Prop :=
  ∃ row ∈ c.rows, row.version.subject.tenant ≠ subject.tenant ∧
    ∃ n, c.Stores (subject, n) ∧ refersTo subject n row.version = true

/-- Here the tenants are not kept apart: what refers to a version is looked for in all rows, by the
name as it is rendered. Of what is found the part has those of its tenant. -/
theorem IsPart.referencedBy (h : IsPart tenant part whole) (subject : Subject) (n : UInt32) :
    part.referencedBy subject n =
      (whole.referencedBy subject n).filter fun v => v.subject.tenant == tenant := by
  unfold Catalog.referencedBy
  have parts : part.rows.map (·.version) =
      (whole.rows.map (·.version)).filter fun v => v.subject.tenant == tenant := by
    rw [h, List.filter_map]
    rfl
  rw [parts, List.filter_filter, List.filter_filter]
  apply List.filter_congr
  intro v _
  exact Bool.and_comm _ _

/-- If nobody else's references are mistaken for such, a version has the same users in both. -/
theorem IsPart.referencedBy_eq (h : IsPart tenant part whole) {subject : Subject}
    (own : subject.tenant = tenant) (clear : ¬ whole.Mistaken subject) {n : UInt32}
    (stored : whole.Stores (subject, n)) :
    part.referencedBy subject n = whole.referencedBy subject n := by
  rw [h.referencedBy, List.filter_eq_self]
  intro v hv
  rw [beq_iff_eq, ← own]
  by_contra foreign
  obtain ⟨⟨row, hrow, rfl⟩, -, r, hr, hsubject, hversion⟩ := mem_referencedBy_iff.mp hv
  refine clear ⟨row, hrow, foreign, n, stored, ?_⟩
  rw [refersTo, List.any_eq_true]
  exact ⟨r, hr, by rw [hsubject, hversion, beq_self_eq_true, beq_self_eq_true]; rfl⟩

end Catalog

/-! ## Deletions -/

namespace Deletion

/-- Only what refers to the numbers themselves is asked for. -/
theorem firstReference?_congr {c c' : Catalog} {subject : Subject} {numbers : List UInt32}
    (h : ∀ n ∈ numbers, c.referencedBy subject n = c'.referencedBy subject n) :
    firstReference? c subject numbers = firstReference? c' subject numbers := by
  induction numbers with
  | nil => rfl
  | cons n rest ih =>
    obtain ⟨hn, hrest⟩ := List.forall_mem_cons.mp h
    rw [firstReference?, firstReference?, hn, ih hrest]

variable {tenant : String} {part whole : Catalog} {subject : Subject}

/-- A soft deletion does not ask who refers to what, so other tenants have no part in it. -/
theorem plan_soft_eq (h : Catalog.IsPart tenant part whole) (own : subject.tenant = tenant) :
    plan part subject .soft = plan whole subject .soft := by
  rw [plan, h.state own, h.versions own, plan]

/-- A permanent deletion does ask, and it comes to the same unless some other tenant's schema is
taken for one that refers to the subject. -/
theorem plan_permanent_eq (h : Catalog.IsPart tenant part whole) (own : subject.tenant = tenant)
    (clear : whole.state subject = .softDeleted → ¬ whole.Mistaken subject) :
    plan part subject .permanent = plan whole subject .permanent := by
  rw [plan, h.state own, h.versions own, plan]
  cases hstate : whole.state subject with
  | absent => rfl
  | live => rfl
  | softDeleted =>
    have same : firstReference? part subject (targets whole subject .permanent) =
        firstReference? whole subject (targets whole subject .permanent) := by
      apply firstReference?_congr
      intro n hn
      exact h.referencedBy_eq own (clear hstate) (mem_targets_permanent_iff.mp hn)
    have checked : checkReferences part subject (targets whole subject .permanent) =
        checkReferences whole subject (targets whole subject .permanent) := by
      rw [checkReferences, same, checkReferences]
    change (checkReferences part subject (targets whole subject .permanent)).map _ = _
    rw [checked]
    rfl

/-- The guard refuses a deletion for the sake of a user that means another subject. -/
theorem plan_permanent_of_mistaken {c : Catalog} (mistaken : c.Mistaken subject)
    (state : c.state subject = .softDeleted) :
    ∃ text, plan c subject .permanent = .error (.referenceExists text) := by
  obtain ⟨row, hrow, foreign, n, stored, refers⟩ := mistaken
  have used : firstReference? c subject (targets c subject .permanent) ≠ none := by
    intro none
    have unused := firstReference?_eq_none_iff.mp none n (mem_targets_permanent_iff.mpr stored)
    rw [Catalog.referencedBy, List.filter_eq_nil_iff] at unused
    apply unused row.version (List.mem_map_of_mem hrow)
    rw [refers, Bool.and_true, decide_eq_true_eq]
    intro same
    exact foreign (congrArg Subject.tenant same)
  obtain ⟨⟨number, user⟩, huser⟩ := Option.ne_none_iff_exists'.mp used
  have refused : ∃ text, checkReferences c subject (targets c subject .permanent) =
      .error (.referenceExists text) := by
    rw [checkReferences, huser]
    exact ⟨_, rfl⟩
  obtain ⟨text, htext⟩ := refused
  refine ⟨text, ?_⟩
  rw [plan, state]
  change (checkReferences c subject (targets c subject .permanent)).map _ = _
  rw [htext]
  rfl

end Deletion

end SchemaRegistry
