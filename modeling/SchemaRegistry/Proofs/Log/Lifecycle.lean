import SchemaRegistry.Proofs.Catalog.Lifecycle
import SchemaRegistry.Proofs.Log.History
/-!
# The life of a subject

In a log of plans every subject goes round one circle. It is absent, a registration makes it live, a
soft deletion takes its last live versions, and a permanent deletion makes it absent again; on the
way it may be registered any number of times, which leaves it live or makes it live once more. What
the state of a subject is after an entry follows from its state before, and entries of other
subjects do not touch it. So the way from live to absent is the long one: both deletions are on it.

No more is assumed of a log than that its entries are plans, each on the catalog of those in front
of it, and that their offsets ascend. The subjects need not be named, and the registrations may be
of any tenants.
-/

set_option autoImplicit false

namespace SchemaRegistry

/-! ## Steps between states -/

/-- What an operation makes of the state of its subject. -/
inductive SubjectState.Step : Op → SubjectState → SubjectState → Prop
  | registered (v : Version) (before : SubjectState) : Step (.register v) before .live
  | marked (subject : Subject) (numbers : List UInt32) :
      Step (.softDelete subject numbers) .live .softDeleted
  | removed (subject : Subject) (numbers : List UInt32) :
      Step (.permanentDelete subject numbers) .softDeleted .absent

namespace Catalog

/-- The operations that plans on the catalog come to. -/
inductive Plans (c : Catalog) : Op → Prop
  | deletion {subject : Subject} {mode : DeletionMode} {op : Op} {record : DeletionRecord}
      (planned : Deletion.plan c subject mode = .ok (op, record)) : Plans c op
  | registration {tenant : String} {subject : Subject} {candidate : Candidate}
      {fidelity : Fidelity} {op : Op} {registered : Registered}
      (planned : Registration.plan c tenant subject candidate fidelity =
        .ok (.append op registered)) : Plans c op

variable {c : Catalog} {op : Op} {offset : Nat}

/-- What was decided was planned. -/
theorem Decides.plans (h : c.Decides op) : c.Plans op := by
  cases h with
  | deletion planned => exact .deletion planned
  | registration named planned => exact .registration planned

/-- A planned operation takes its subject one step on. -/
theorem Plans.step (h : c.Plans op) (sorted : c.Sorted) (ahead : c.applied < offset) :
    SubjectState.Step op (c.state op.subject) ((c.applyAt offset op).state op.subject) := by
  cases h with
  | registration planned =>
    obtain ⟨v, rfl, -, appends⟩ := Registration.appends_of_plan planned
    have live : (c.applyAt offset (.register v)).state v.subject = .live := by
      rw [state_eq_live_iff, applyAt_of_lt ahead]
      -- The version that is added is not deleted, and one such version makes its subject live.
      refine ⟨v, ?_, ?_⟩
      · exact mem_versions_iff.mpr ⟨⟨.ofVersion v, Row.mem_insert_self _ _, rfl⟩, rfl, .inl rfl⟩
      · rw [Version.isLive, appends.isDeleted]
        rfl
    exact live ▸ .registered v _
  | deletion planned =>
    rename_i subject mode record
    obtain ⟨hcheck, -, rfl, -⟩ := Deletion.plan_eq_ok_iff.mp planned
    cases mode with
    | soft =>
      have before := Deletion.check_soft_eq_ok_iff.mp hcheck
      have after := (Deletion.marks_of_plan sorted planned).state offset ahead
      change SubjectState.Step _ (c.state subject) ((c.applyAt offset _).state subject)
      rw [before, after]
      exact .marked subject _
    | permanent =>
      have before := Deletion.check_permanent_eq_ok_iff.mp hcheck
      have after := (Deletion.removes_of_plan sorted planned).state offset ahead
      change SubjectState.Step _ (c.state subject) ((c.applyAt offset _).state subject)
      rw [before, after]
      exact .removed subject _

/-- An entry changes the state of its own subject only. -/
theorem state_applyAt_of_ne {subject : Subject} (apart : op.subject ≠ subject) :
    (c.applyAt offset op).state subject = c.state subject := by
  rw [applyAt]
  split
  · rfl
  · have kept : (c.perform op).rowsOf subject true = c.rowsOf subject true :=
      rowsOf_perform_of_ne apart true
    change (c.perform op).state subject = c.state subject
    rw [state, versions, kept, state, versions]

end Catalog

/-! ## Logs of plans -/

/-- Whether every entry lies ahead of those in front of it, and is what a plan on their catalog came
to. -/
def Planned (log : List Entry) : Prop :=
  ∀ k e, log[k]? = some e → (Catalog.ofEntries (log.take k)).applied < e.offset ∧
    (Catalog.ofEntries (log.take k)).Plans e.op

theorem History.planned {log : List Entry} (h : History log) : Planned log := by
  intro k e he
  obtain ⟨decided, offset, -⟩ := h.of_getElem? he
  have length : (log.take k).length = k :=
    List.length_take_of_le (List.getElem?_eq_some_iff.mp he).1.le
  refine ⟨?_, decided.plans⟩
  rw [(h.take k).applied, length, offset]
  exact Nat.lt_succ_self k

/-- The state of a subject after the first entries of a log. -/
def stateAfter (log : List Entry) (subject : Subject) (k : Nat) : SubjectState :=
  (Catalog.ofEntries (log.take k)).state subject

/-- Whether the entry at a place is a soft deletion of the subject. -/
def SoftDeletedAt (log : List Entry) (subject : Subject) (k : Nat) : Prop :=
  ∃ e numbers, log[k]? = some e ∧ e.op = .softDelete subject numbers

/-- Whether the entry at a place is a permanent deletion of the subject. -/
def RemovedAt (log : List Entry) (subject : Subject) (k : Nat) : Prop :=
  ∃ e numbers, log[k]? = some e ∧ e.op = .permanentDelete subject numbers

/-- What is known of a subject in a log of plans. -/
structure Life (log : List Entry) (subject : Subject) : Prop where
  start : stateAfter log subject 0 = .absent
  own : ∀ k e, log[k]? = some e → e.op.subject = subject →
    SubjectState.Step e.op (stateAfter log subject k) (stateAfter log subject (k + 1))
  others : ∀ k e, log[k]? = some e → e.op.subject ≠ subject →
    stateAfter log subject (k + 1) = stateAfter log subject k
  /-- A subject that was live is not absent before it has been deleted twice. -/
  deletions : ∀ j k, j ≤ k → stateAfter log subject j = .live →
    stateAfter log subject k = .absent →
    ∃ p q, j ≤ p ∧ p < q ∧ q < k ∧ SoftDeletedAt log subject p ∧ RemovedAt log subject q

namespace Planned

variable {log : List Entry} {subject : Subject}

/-- The catalog behind an entry is the one in front of it with the entry applied, so states can be
followed entry by entry. -/
theorem ofEntries_take_succ {k : Nat} {e : Entry} (he : log[k]? = some e) :
    Catalog.ofEntries (log.take (k + 1)) =
      (Catalog.ofEntries (log.take k)).applyAt e.offset e.op := by
  rw [List.take_add_one, he, Option.toList_some, Catalog.ofEntries_append]
  rfl

/-- Every entry about a subject takes it along one of the steps of its life. -/
theorem step (h : Planned log) {k : Nat} {e : Entry} (he : log[k]? = some e)
    (own : e.op.subject = subject) :
    SubjectState.Step e.op (stateAfter log subject k) (stateAfter log subject (k + 1)) := by
  obtain ⟨ahead, planned⟩ := h k e he
  rw [stateAfter, stateAfter, ofEntries_take_succ he, ← own]
  exact planned.step (Catalog.sorted_ofEntries _) ahead

theorem stateAfter_succ_of_ne {k : Nat} {e : Entry} (he : log[k]? = some e)
    (apart : e.op.subject ≠ subject) :
    stateAfter log subject (k + 1) = stateAfter log subject k := by
  rw [stateAfter, stateAfter, ofEntries_take_succ he]
  exact Catalog.state_applyAt_of_ne apart

/-- Only an entry of its own moves a subject. -/
theorem exists_entry_of_ne {k : Nat}
    (moved : stateAfter log subject (k + 1) ≠ stateAfter log subject k) :
    ∃ e, log[k]? = some e ∧ e.op.subject = subject := by
  cases he : log[k]? with
  | none =>
    have short := List.getElem?_eq_none_iff.mp he
    refine absurd ?_ moved
    rw [stateAfter, stateAfter, List.take_of_length_le short,
      List.take_of_length_le (Nat.le_succ_of_le short)]
  | some e =>
    by_contra none
    exact moved (stateAfter_succ_of_ne he fun own => none ⟨e, rfl, own⟩)

/-- A subject that was live is live, or it has been soft-deleted since; and then it is so still, or
it has been deleted for good after that, or is live again. -/
theorem live_or_exists_deletion (h : Planned log) {j k : Nat} (hjk : j ≤ k)
    (live : stateAfter log subject j = .live) :
    stateAfter log subject k = .live ∨ ∃ p, j ≤ p ∧ p < k ∧ SoftDeletedAt log subject p ∧
      (stateAfter log subject k = .softDeleted ∨
        ∃ q, p < q ∧ q < k ∧ RemovedAt log subject q) := by
  induction k, hjk using Nat.le_induction with
  | base => exact Or.inl live
  | succ k hjk ih =>
    by_cases same : stateAfter log subject (k + 1) = stateAfter log subject k
    · rw [same]
      exact ih.imp_right fun ⟨p, hj, hk, soft, rest⟩ => ⟨p, hj, Nat.lt_succ_of_lt hk, soft,
        rest.imp_right fun ⟨q, hp, hq, removed⟩ => ⟨q, hp, Nat.lt_succ_of_lt hq, removed⟩⟩
    · obtain ⟨e, he, own⟩ := exists_entry_of_ne same
      have step := h.step he own
      generalize hop : e.op = op at step own
      generalize stateAfter log subject k = before at step ih
      generalize stateAfter log subject (k + 1) = after at step
      cases step with
      | registered => exact Or.inl rfl
      | marked other numbers =>
        cases own
        exact Or.inr ⟨k, hjk, Nat.lt_succ_self k, ⟨e, numbers, he, hop⟩, Or.inl rfl⟩
      | removed other numbers =>
        cases own
        obtain ⟨p, hj, hk, soft, -⟩ := ih.resolve_left nofun
        exact Or.inr ⟨p, hj, Nat.lt_succ_of_lt hk, soft,
          Or.inr ⟨k, hk, Nat.lt_succ_self k, e, numbers, he, hop⟩⟩

/-- **The whole life of a subject** consists of such steps, and between them nothing happens to it.
-/
theorem life (h : Planned log) (subject : Subject) : Life log subject where
  start := rfl
  own _ _ := h.step
  others _ _ := stateAfter_succ_of_ne
  deletions j k hjk live absent := by
    rcases h.live_or_exists_deletion hjk live with still | ⟨p, hj, hk, soft, deleted | hq⟩
    · rw [absent] at still
      cases still
    · rw [absent] at deleted
      cases deleted
    · obtain ⟨q, hp, hq, permanent⟩ := hq
      exact ⟨p, q, hj, hp, hq, soft, permanent⟩

end Planned

/-- **A subject lives from its registrations to its deletions.** Whatever the log, deletions are
planned exactly where the subject allows them, they tell what they are about, and do to the subject
what was planned and to no other subject anything. If the entries of the log are plans themselves,
each of them takes its subject one step round the circle. -/
theorem subject_lifecycle (log : List Entry) (subject : Subject) :
    Deletion.Laws (Catalog.ofEntries log) subject ∧ (Planned log → Life log subject) :=
  ⟨Deletion.laws (Catalog.sorted_ofEntries log) subject, fun planned => planned.life subject⟩

/-- The only version there is of the subject `invoices`. -/
def onlyInvoice : Version :=
  { subject := ⟨"default", ".", "invoices"⟩, number := 1, id := 1, format := .avro, references := []
    text := "\"string\"", isDeleted := false }

/-- A subject is registered and deleted both ways, with a gap between the offsets. -/
def roundOfInvoices : List Entry :=
  [{ offset := 1, op := .register onlyInvoice, appendedAt := default },
    { offset := 2, op := .softDelete onlyInvoice.subject [1], appendedAt := default },
    { offset := 5, op := .permanentDelete onlyInvoice.subject [1], appendedAt := default }]

theorem subject_lifecycle_invoices :
    Planned roundOfInvoices ∧ Life roundOfInvoices onlyInvoice.subject ∧
      stateAfter roundOfInvoices onlyInvoice.subject 1 = .live ∧
      stateAfter roundOfInvoices onlyInvoice.subject 3 = .absent := by
  have registration : Registration.plan (.ofEntries (roundOfInvoices.take 0)) "default"
      onlyInvoice.subject { format := .avro, references := [], text := "\"string\"" } .raw =
        .ok (.append (.register onlyInvoice) { id := 1, number := 1 }) := by
    decide +kernel
  have softDeletion :
      Deletion.plan (.ofEntries (roundOfInvoices.take 1)) onlyInvoice.subject .soft =
      .ok (.softDelete onlyInvoice.subject [1],
        { subject := onlyInvoice.subject, mode := .soft, versions := [1] }) := by
    decide +kernel
  have removal :
      Deletion.plan (.ofEntries (roundOfInvoices.take 2)) onlyInvoice.subject .permanent =
      .ok (.permanentDelete onlyInvoice.subject [1],
        { subject := onlyInvoice.subject, mode := .permanent, versions := [1] }) := by
    decide +kernel
  have planned : Planned roundOfInvoices := by
    intro k e he
    match k with
    | 0 =>
      cases he
      exact ⟨by decide, .registration registration⟩
    | 1 =>
      cases he
      exact ⟨by decide +kernel, .deletion softDeletion⟩
    | 2 =>
      cases he
      exact ⟨by decide +kernel, .deletion removal⟩
  exact ⟨planned, (subject_lifecycle roundOfInvoices onlyInvoice.subject).2 planned,
    by decide +kernel, by decide +kernel⟩

end SchemaRegistry
