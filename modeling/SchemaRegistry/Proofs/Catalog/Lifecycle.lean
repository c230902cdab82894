import SchemaRegistry.Proofs.Catalog.Decision
import SchemaRegistry.Proofs.Catalog.Growth
/-!
# What a deletion does to its subject

A subject is absent, live or soft-deleted, and what a deletion does depends on that alone, but for
the versions of other subjects that a permanent deletion has to leave unharmed. Planning a deletion
and applying it are two functions which never see one another: the plan lists numbers, and the
application looks for rows of those numbers. `Deletion.Laws` says that they agree in every catalog
that a log leads to, whatever mixture of live and deleted versions a subject has there.
-/

set_option autoImplicit false

namespace SchemaRegistry

/-! ## Versions and states -/

namespace Catalog

variable {c : Catalog} {subject : Subject}

/-- The versions of a subject ascend. -/
theorem Sorted.ascending (h : c.Sorted) (subject : Subject) (includeDeleted : Bool) :
    (c.versions subject includeDeleted).Pairwise fun v w => v.number < w.number := by
  have ordered : Row.InOrder (c.rowsOf subject includeDeleted) := List.Pairwise.filter _ h
  refine List.pairwise_map.mpr (ordered.imp_of_mem fun {a b} ha hb hab => ?_)
  have same : a.version.subject = b.version.subject := by
    have hsubject := fun {row} (hrow : row ∈ c.rowsOf subject includeDeleted) =>
      (mem_versions_iff.mp (List.mem_map_of_mem hrow)).2.1
    rw [hsubject ha, hsubject hb]
  rw [Version.place, Version.place, same, Prod.Lex.toLex_lt_toLex] at hab
  exact UInt32.lt_iff_toNat_lt.mpr (hab.resolve_left (lt_irrefl _)).2

theorem versions_live (c : Catalog) (subject : Subject) :
    c.versions subject false = (c.versions subject true).filter Version.isLive := by
  rw [versions, versions, List.filter_map, rowsOf, rowsOf, List.filter_filter]
  congr 1
  refine List.filter_congr fun row _ => ?_
  rw [Bool.false_or, Bool.true_or, Bool.and_true, Bool.and_comm]
  rfl

theorem mem_versions_live_iff {v : Version} :
    v ∈ c.versions subject false ↔ v ∈ c.versions subject true ∧ v.isLive = true := by
  rw [versions_live, List.mem_filter]

/-- A subject is live by a single live version, whatever has become of the others. -/
theorem state_eq_live_iff :
    c.state subject = .live ↔ ∃ v ∈ c.versions subject true, v.isLive = true := by
  rw [← List.any_eq_true, state]
  cases c.versions subject true with
  | nil => exact ⟨nofun, nofun⟩
  | cons v rest =>
    dsimp only
    split
    · rename_i live
      exact ⟨fun _ => live, fun _ => rfl⟩
    · rename_i dead
      exact ⟨nofun, fun live => absurd live dead⟩

/-- A subject that has been deleted for good is told by no version from one that never was. -/
theorem state_eq_absent_iff : c.state subject = .absent ↔ c.versions subject true = [] := by
  rw [state]
  cases c.versions subject true with
  | nil => exact ⟨fun _ => rfl, fun _ => rfl⟩
  | cons v rest =>
    dsimp only
    split <;> exact ⟨nofun, nofun⟩

/-- A subject is soft deleted as long as it has versions and each of them is marked. -/
theorem state_eq_softDeleted_iff :
    c.state subject = .softDeleted ↔
      c.versions subject true ≠ [] ∧ ∀ v ∈ c.versions subject true, v.isLive = false := by
  have live := @state_eq_live_iff c subject
  have absent := @state_eq_absent_iff c subject
  constructor
  · intro h
    refine ⟨fun none => ?_, fun v hv => Bool.eq_false_iff.mpr fun hlive => ?_⟩
    · rw [absent.mpr none] at h
      cases h
    · rw [live.mpr ⟨v, hv, hlive⟩] at h
      cases h
  · rintro ⟨some, dead⟩
    cases h : c.state subject with
    | absent => exact absurd (absent.mp h) some
    | live =>
      obtain ⟨v, hv, hlive⟩ := live.mp h
      exact absurd hlive (Bool.eq_false_iff.mp (dead v hv))
    | softDeleted => rfl

/-! ## Versions after a deletion -/

/-- An operation that lies ahead is performed. -/
theorem applyAt_of_lt {offset : Nat} (ahead : c.applied < offset) (op : Op) :
    c.applyAt offset op = { c.perform op with applied := offset } :=
  if_neg (Nat.not_le_of_lt ahead)

/-- The rows of the numbers that a soft deletion names are marked. -/
theorem versions_softDelete (c : Catalog) (subject : Subject) (numbers : List UInt32) :
    (c.perform (.softDelete subject numbers)).versions subject true =
      (c.versions subject true).map fun v =>
        if v.number ∈ numbers then { v with isDeleted := true } else v := by
  rw [versions, versions, rowsOf, rowsOf, perform, List.filter_map, List.map_map, List.map_map]
  -- A mark leaves a row to its subject.
  have kept : c.rows.filter ((fun row => row.version.subject == subject &&
        (true || row.version.isLive)) ∘ fun row =>
          if row.isAmong subject numbers then row.markDeleted else row) =
      c.rows.filter fun row => row.version.subject == subject && (true || row.version.isLive) := by
    refine List.filter_congr fun row _ => ?_
    rw [Function.comp_apply]
    split <;> rfl
  rw [kept]
  refine List.map_congr_left fun row hrow => ?_
  obtain ⟨own, -⟩ := Bool.and_eq_true_iff.mp (List.mem_filter.mp hrow).2
  rw [Function.comp_apply, Function.comp_apply, Row.isAmong, own, Bool.true_and]
  by_cases named : row.version.number ∈ numbers
  · rw [if_pos named, if_pos (List.contains_iff_mem.mpr named)]
    rfl
  · rw [if_neg named, if_neg (mt List.contains_iff_mem.mp named)]

/-- The rows of the numbers that a permanent deletion names are gone. -/
theorem versions_permanentDelete (c : Catalog) (subject : Subject) (numbers : List UInt32) :
    (c.perform (.permanentDelete subject numbers)).versions subject true =
      (c.versions subject true).filter fun v => v.number ∉ numbers := by
  rw [versions, versions, rowsOf, rowsOf, perform, List.filter_map, List.filter_filter,
    List.filter_filter]
  congr 1
  refine List.filter_congr fun row _ => ?_
  rw [Row.isAmong, Function.comp_apply]
  by_cases own : row.version.subject = subject
  · simp [own]
  · simp [beq_false_of_ne own]

/-- Whether a version of another subject refers to that version of the subject. -/
def UsedElsewhere (c : Catalog) (subject : Subject) (n : UInt32) : Prop :=
  ∃ row ∈ c.rows, row.version.subject ≠ subject ∧
    ∃ r ∈ row.version.references, r.subject = subject.rendered ∧ r.version = n

/-- What stands in the way of a deletion are references from live versions of other subjects only.
-/
theorem referencedBy_eq_nil_iff {n : UInt32} :
    c.referencedBy subject n = [] ↔ ¬ c.UsedElsewhere subject n := by
  rw [List.eq_nil_iff_forall_not_mem]
  constructor
  · rintro none ⟨row, hrow, foreign, refers⟩
    exact none row.version (mem_referencedBy_iff.mpr ⟨⟨row, hrow, rfl⟩, foreign, refers⟩)
  · rintro unused v hv
    obtain ⟨⟨row, hrow, rfl⟩, foreign, refers⟩ := mem_referencedBy_iff.mp hv
    exact unused ⟨row, hrow, foreign, refers⟩

end Catalog

namespace Deletion

variable {c : Catalog} {subject : Subject}

/-! ## Targets -/

/-- Versions are deleted in the order of their numbers, which is also the order in which references
to them are looked for. -/
theorem ascending_targets (h : c.Sorted) (subject : Subject) (mode : DeletionMode) :
    (targets c subject mode).Pairwise (· < ·) :=
  List.pairwise_map.mpr (h.ascending subject mode.isPermanent)

/-- A soft deletion aims at the live versions. Those that are marked already are left alone. -/
theorem mem_targets_soft_iff {n : UInt32} :
    n ∈ targets c subject .soft ↔
      ∃ v ∈ c.versions subject true, v.isLive = true ∧ v.number = n := by
  rw [targets, List.mem_map]
  constructor
  · rintro ⟨v, hv, rfl⟩
    obtain ⟨hv, live⟩ := Catalog.mem_versions_live_iff.mp hv
    exact ⟨v, hv, live, rfl⟩
  · rintro ⟨v, hv, live, rfl⟩
    exact ⟨v, Catalog.mem_versions_live_iff.mpr ⟨hv, live⟩, rfl⟩

/-- The reference that is reported is to the lowest version that is used, from its first user. -/
theorem firstReference?_eq_some_iff {numbers : List UInt32} (ascending : numbers.Pairwise (· < ·))
    {n : UInt32} {user : Version} :
    firstReference? c subject numbers = some (n, user) ↔
      n ∈ numbers ∧ (c.referencedBy subject n).head? = some user ∧
        ∀ m ∈ numbers, m < n → c.referencedBy subject m = [] := by
  induction numbers with
  | nil => exact ⟨nofun, fun h => absurd h.1 List.not_mem_nil⟩
  | cons first rest ih =>
    obtain ⟨hfirst, hrest⟩ := List.pairwise_cons.mp ascending
    rw [firstReference?]
    cases hused : c.referencedBy subject first with
    | nil =>
      -- Nothing refers to the first number, so it makes no difference to those behind it.
      rw [ih hrest]
      constructor
      · rintro ⟨hn, huser, lowest⟩
        refine ⟨List.mem_cons_of_mem _ hn, huser, fun m hm hlt => ?_⟩
        rcases List.mem_cons.mp hm with rfl | hm
        · exact hused
        · exact lowest m hm hlt
      · rintro ⟨hn, huser, lowest⟩
        refine ⟨?_, huser, fun m hm => lowest m (List.mem_cons_of_mem _ hm)⟩
        rcases List.mem_cons.mp hn with rfl | hn
        · rw [hused] at huser
          cases huser
        · exact hn
    | cons firstUser more =>
      dsimp only
      constructor
      · -- The search ends at the first number, and all others are above it.
        intro h
        cases h
        refine ⟨List.mem_cons_self, by rw [hused]; rfl, fun m hm hlt => ?_⟩
        rcases List.mem_cons.mp hm with rfl | hm
        · exact absurd hlt (UInt32.lt_irrefl m)
        · exact absurd (UInt32.lt_trans hlt (hfirst m hm)) (UInt32.lt_irrefl m)
      · rintro ⟨hn, huser, lowest⟩
        rcases List.mem_cons.mp hn with rfl | hn
        · rw [hused] at huser
          cases huser
          rfl
        · rw [lowest first List.mem_cons_self (hfirst n hn)] at hused
          cases hused

/-! ## Refusals -/

/-- What is said of a version that is used elsewhere. -/
def usedText (subject : Subject) (n : UInt32) (user : Version) : String :=
  let schema := versionText subject n
  let user := versionText user.subject user.number
  s!"One or more references exist to the schema {schema}, e.g. from {user}"

/-- The error names the lowest of the numbers that is referred to, and of those that refer to it the
first. -/
theorem checkReferences_eq_error_iff {numbers : List UInt32}
    (ascending : numbers.Pairwise (· < ·)) {e : Error} :
    checkReferences c subject numbers = .error e ↔
      ∃ n user, (n ∈ numbers ∧ (c.referencedBy subject n).head? = some user ∧
          ∀ m ∈ numbers, m < n → c.referencedBy subject m = []) ∧
        e = .referenceExists (usedText subject n user) := by
  rw [checkReferences]
  -- The check fails at the first number that is still used, if there is one.
  cases hused : firstReference? c subject numbers with
  | none =>
    constructor
    · intro h
      cases h
    · rintro ⟨n, user, first, -⟩
      rw [(firstReference?_eq_some_iff ascending).mpr first] at hused
      cases hused
  | some used =>
    constructor
    · intro h
      cases h
      exact ⟨used.1, used.2, (firstReference?_eq_some_iff ascending).mp hused, rfl⟩
    · rintro ⟨n, user, first, rfl⟩
      rw [(firstReference?_eq_some_iff ascending).mpr first] at hused
      cases hused
      rfl

/-- Why a deletion is refused: there is nothing, or the state forbids the mode, or, last of all, a
version is used elsewhere. -/
inductive Refusal (c : Catalog) (subject : Subject) : DeletionMode → Error → Prop
  | absent {mode : DeletionMode} (none : c.versions subject true = []) :
      Refusal c subject mode (.subjectNotFound subject.rendered)
  | softDeleted (some : c.versions subject true ≠ [])
      (dead : ∀ v ∈ c.versions subject true, v.isLive = false) :
      Refusal c subject .soft (.subjectNotSoftDeleted subject.rendered .soft)
  | live (live : ∃ v ∈ c.versions subject true, v.isLive = true) :
      Refusal c subject .permanent (.subjectNotSoftDeleted subject.rendered .permanent)
  /-- The reference that is named is to the lowest version used, from its first user. -/
  | used {n : UInt32} {user : Version} (dead : ∀ v ∈ c.versions subject true, v.isLive = false)
      (stored : c.Stores (subject, n)) (first : (c.referencedBy subject n).head? = some user)
      (lowest : ∀ m, m < n → c.Stores (subject, m) → ¬ c.UsedElsewhere subject m) :
      Refusal c subject .permanent (.referenceExists (usedText subject n user))

/-- **A deletion is refused for exactly the reasons listed**, in their order: what the state of the
subject is comes before who refers to its versions. -/
theorem plan_eq_error_iff (sorted : c.Sorted) {mode : DeletionMode} {e : Error} :
    plan c subject mode = .error e ↔ Refusal c subject mode e := by
  have ascending := ascending_targets sorted subject .permanent
  constructor
  · intro h
    rw [plan] at h
    cases state : c.state subject with
    | absent =>
      rw [state] at h
      cases h
      exact .absent (Catalog.state_eq_absent_iff.mp state)
    | live =>
      rw [state] at h
      cases mode with
      | soft => cases h
      | permanent =>
        cases h
        exact .live (Catalog.state_eq_live_iff.mp state)
    | softDeleted =>
      obtain ⟨some, dead⟩ := Catalog.state_eq_softDeleted_iff.mp state
      rw [state] at h
      cases mode with
      | soft =>
        cases h
        exact .softDeleted some dead
      | permanent =>
        -- The state allows it, so the references are what it is refused for.
        change (checkReferences c subject (targets c subject .permanent)).map _ = _ at h
        cases hused : checkReferences c subject (targets c subject .permanent) with
        | ok u =>
          rw [hused] at h
          cases h
        | error d =>
          rw [hused] at h
          cases h
          obtain ⟨n, user, ⟨hn, first, lowest⟩, rfl⟩ :=
            (checkReferences_eq_error_iff ascending).mp hused
          refine .used dead (mem_targets_permanent_iff.mp hn) first fun m hlt hm => ?_
          exact Catalog.referencedBy_eq_nil_iff.mp
            (lowest m (mem_targets_permanent_iff.mpr hm) hlt)
  · intro h
    rw [plan]
    cases h with
    | absent none => rw [Catalog.state_eq_absent_iff.mpr none, check]
    | softDeleted some dead => rw [Catalog.state_eq_softDeleted_iff.mpr ⟨some, dead⟩, check]
    | live live => rw [Catalog.state_eq_live_iff.mpr live, check]
    | used dead stored first lowest =>
      rename_i n user
      have hn : n ∈ targets c subject .permanent := mem_targets_permanent_iff.mpr stored
      have some : c.versions subject true ≠ [] := by
        intro none
        rw [targets, DeletionMode.isPermanent, none] at hn
        cases hn
      have hused : checkReferences c subject (targets c subject .permanent) =
          .error (.referenceExists (usedText subject n user)) := by
        refine (checkReferences_eq_error_iff ascending).mpr ⟨n, user, ⟨hn, first, ?_⟩, rfl⟩
        intro m hm hlt
        exact Catalog.referencedBy_eq_nil_iff.mpr (lowest m hlt (mem_targets_permanent_iff.mp hm))
      rw [Catalog.state_eq_softDeleted_iff.mpr ⟨some, dead⟩, check]
      change (checkReferences c subject (targets c subject .permanent)).map _ = _
      rw [hused]
      rfl

/-! ## What the planned deletions do -/

/-- What a soft deletion that was planned tells its caller and does to the subject. -/
structure Marks (c : Catalog) (subject : Subject) (o : Op) (record : DeletionRecord) : Prop where
  nonempty : record.versions ≠ []
  ascending : record.versions.Pairwise (· < ·)
  mem_iff : ∀ n, n ∈ record.versions ↔
    ∃ v ∈ c.versions subject true, v.isLive = true ∧ v.number = n
  state : ∀ offset, c.applied < offset → (c.applyAt offset o).state subject = .softDeleted
  numbers : ∀ offset, c.applied < offset →
    ((c.applyAt offset o).versions subject true).map (·.number) =
      (c.versions subject true).map (·.number)

/-- What a permanent deletion that was planned tells its caller and does to the subject. -/
structure Removes (c : Catalog) (subject : Subject) (o : Op) (record : DeletionRecord) : Prop where
  ascending : record.versions.Pairwise (· < ·)
  mem_iff : ∀ n, n ∈ record.versions ↔ c.Stores (subject, n)
  state : ∀ offset, c.applied < offset → (c.applyAt offset o).state subject = .absent

/-- What is known of the deletions of a subject. -/
structure Laws (c : Catalog) (subject : Subject) : Prop where
  /-- What is planned is the operation on the versions that the caller is told. -/
  planned : ∀ mode o record, plan c subject mode = .ok (o, record) →
    o = op subject record.versions mode ∧ record.subject = subject ∧ record.mode = mode
  soft_iff : (∃ o record, plan c subject .soft = .ok (o, record)) ↔
    ∃ v ∈ c.versions subject true, v.isLive = true
  soft : ∀ o record, plan c subject .soft = .ok (o, record) → Marks c subject o record
  permanent_iff : (∃ o record, plan c subject .permanent = .ok (o, record)) ↔
    c.versions subject true ≠ [] ∧ (∀ v ∈ c.versions subject true, v.isLive = false) ∧
      ∀ n, c.Stores (subject, n) → ¬ c.UsedElsewhere subject n
  permanent : ∀ o record, plan c subject .permanent = .ok (o, record) → Removes c subject o record
  refusal : ∀ mode e, plan c subject mode = .error e ↔ Refusal c subject mode e
  /-- A deletion, planned or not, leaves all other subjects as they are. -/
  frame : ∀ mode numbers offset other, other ≠ subject →
    (c.applyAt offset (op subject numbers mode)).rowsOf other true = c.rowsOf other true
  /-- No deletion moves a mark. -/
  marks : ∀ mode numbers offset,
    (c.applyAt offset (op subject numbers mode)).maxId = c.maxId ∧
      ∀ other, (c.applyAt offset (op subject numbers mode)).highestVersion other =
        c.highestVersion other

/-- Only what is live can be soft deleted: a second soft deletion is refused like that of a subject
that is not there. -/
theorem check_soft_eq_ok_iff {state : SubjectState} :
    check state subject .soft = .ok () ↔ state = .live := by
  cases state with
  | live => exact ⟨fun _ => rfl, fun _ => rfl⟩
  | absent | softDeleted => exact ⟨nofun, nofun⟩

/-- Nothing is deleted for good that has not been soft deleted before. -/
theorem check_permanent_eq_ok_iff {state : SubjectState} :
    check state subject .permanent = .ok () ↔ state = .softDeleted := by
  cases state with
  | softDeleted => exact ⟨fun _ => rfl, fun _ => rfl⟩
  | absent | live => exact ⟨nofun, nofun⟩

theorem marks_of_plan (sorted : c.Sorted) {o : Op} {record : DeletionRecord}
    (h : plan c subject .soft = .ok (o, record)) : Marks c subject o record := by
  obtain ⟨hcheck, -, rfl, rfl⟩ := plan_eq_ok_iff.mp h
  obtain ⟨v, hv, live⟩ := Catalog.state_eq_live_iff.mp (check_soft_eq_ok_iff.mp hcheck)
  have after : ∀ offset, c.applied < offset →
      (c.applyAt offset (op subject (targets c subject .soft) .soft)).versions subject true =
        (c.versions subject true).map fun v =>
          if v.number ∈ targets c subject .soft then { v with isDeleted := true } else v := by
    intro offset ahead
    rw [Catalog.applyAt_of_lt ahead]
    exact c.versions_softDelete subject (targets c subject .soft)
  refine ⟨?_, ascending_targets sorted subject .soft, fun n => mem_targets_soft_iff,
    fun offset ahead => ?_, fun offset ahead => ?_⟩
  · exact List.ne_nil_of_mem (mem_targets_soft_iff.mpr ⟨v, hv, live, rfl⟩)
  · rw [Catalog.state_eq_softDeleted_iff, after offset ahead, List.forall_mem_map]
    refine ⟨List.ne_nil_of_mem (List.mem_map_of_mem hv), fun w hw => ?_⟩
    -- A version that is live is among the targets, and marked.
    split
    · rfl
    · rename_i spared
      exact Bool.eq_false_iff.mpr fun live =>
        spared (mem_targets_soft_iff.mpr ⟨w, hw, live, rfl⟩)
  · rw [after offset ahead, List.map_map]
    refine List.map_congr_left fun w _ => ?_
    rw [Function.comp_apply]
    split <;> rfl

/-- What a permanent deletion plans is told by the catalog before and after it. It names all
versions, so that nothing of the subject is left. -/
theorem removes_of_plan (sorted : c.Sorted) {o : Op} {record : DeletionRecord}
    (h : plan c subject .permanent = .ok (o, record)) : Removes c subject o record := by
  obtain ⟨-, -, rfl, rfl⟩ := plan_eq_ok_iff.mp h
  refine ⟨ascending_targets sorted subject .permanent, fun n => mem_targets_permanent_iff,
    fun offset ahead => ?_⟩
  rw [Catalog.state_eq_absent_iff, Catalog.applyAt_of_lt ahead]
  change (c.perform (.permanentDelete subject _)).versions subject true = []
  rw [c.versions_permanentDelete subject, List.filter_eq_nil_iff]
  intro v hv
  rw [decide_eq_true_eq, not_not]
  exact List.mem_map_of_mem hv

/-! ## The laws -/

/-- A soft deletion asks for nothing but a live version, since references survive the mark. -/
theorem exists_plan_soft_iff :
    (∃ o record, plan c subject .soft = .ok (o, record)) ↔
      ∃ v ∈ c.versions subject true, v.isLive = true := by
  rw [← Catalog.state_eq_live_iff, ← @check_soft_eq_ok_iff subject]
  constructor
  · rintro ⟨o, record, h⟩
    exact (plan_eq_ok_iff.mp h).1
  · intro hcheck
    exact ⟨_, _, plan_eq_ok_iff.mpr ⟨hcheck, nofun, rfl, rfl⟩⟩

/-- A permanent deletion asks for all versions to be marked and for none to be in use elsewhere. -/
theorem exists_plan_permanent_iff :
    (∃ o record, plan c subject .permanent = .ok (o, record)) ↔
      c.versions subject true ≠ [] ∧ (∀ v ∈ c.versions subject true, v.isLive = false) ∧
        ∀ n, c.Stores (subject, n) → ¬ c.UsedElsewhere subject n := by
  rw [← and_assoc, ← Catalog.state_eq_softDeleted_iff, ← @check_permanent_eq_ok_iff subject]
  constructor
  · rintro ⟨o, record, h⟩
    obtain ⟨hcheck, unused, -⟩ := plan_eq_ok_iff.mp h
    exact ⟨hcheck, fun n hn => Catalog.referencedBy_eq_nil_iff.mp
      (unused rfl n (mem_targets_permanent_iff.mpr hn))⟩
  · rintro ⟨hcheck, unused⟩
    exact ⟨_, _, plan_eq_ok_iff.mpr ⟨hcheck, fun _ n hn => Catalog.referencedBy_eq_nil_iff.mpr
      (unused n (mem_targets_permanent_iff.mp hn)), rfl, rfl⟩⟩

/-- **Plans and applications of deletions agree.** -/
theorem laws (sorted : c.Sorted) (subject : Subject) : Laws c subject where
  planned mode o record h := by
    obtain ⟨-, -, rfl, rfl⟩ := plan_eq_ok_iff.mp h
    exact ⟨rfl, rfl, rfl⟩
  soft_iff := exists_plan_soft_iff
  soft _ _ := marks_of_plan sorted
  permanent_iff := exists_plan_permanent_iff
  permanent _ _ := removes_of_plan sorted
  refusal _ _ := plan_eq_error_iff sorted
  frame mode numbers offset other apart := by
    have own : (op subject numbers mode).subject = subject := by cases mode <;> rfl
    rw [Catalog.applyAt]
    split
    · rfl
    · exact Catalog.rowsOf_perform_of_ne (fun same => apart (same.symm.trans own)) true
  marks mode numbers offset := by
    rw [Catalog.applyAt]
    split
    · exact ⟨rfl, fun _ => rfl⟩
    · cases mode <;> exact ⟨rfl, fun _ => rfl⟩

end Deletion

end SchemaRegistry
