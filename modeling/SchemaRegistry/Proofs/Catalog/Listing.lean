import SchemaRegistry.Proofs.Catalog.Shelves
import SchemaRegistry.Proofs.Cluster.Names
import SchemaRegistry.Proofs.Subject.Pattern
/-!
# What is listed is what is there

Four readers of a catalog tell whether there is a subject: its versions, whether it has any, its
state, and the listings that it is in. Where versions are kept by subject, two of them do not look
at versions at all, and yet all four agree in the catalog of every log (`Catalog.reads_agree`). What
a listing has beyond that is told by how its pattern is written, and the pattern written like the
name of a stored subject finds that subject.
-/

set_option autoImplicit false

namespace SchemaRegistry

/-! ## Shelves are read as rows are -/

namespace Shelves

theorem mem_shelf_iff {shelf : Shelf} {v : Version} :
    v ∈ shelf.versions ↔ ∃ n : UInt32, shelf[n]? = some v := by
  rw [Shelf.versions, List.mem_map]
  simp only [Prod.exists, Std.TreeMap.mem_toList_iff_getElem?_eq_some, exists_eq_right]

/-- A subject's versions are those on its shelf, without the marked ones unless these are asked for.
-/
theorem versions_of_getElem? {s : Shelves} {subject : Subject} {shelf : Shelf}
    (h : s.shelves[subject]? = some shelf) (includeDeleted : Bool) :
    s.versions subject includeDeleted =
      shelf.versions.filter fun v => includeDeleted || v.isLive := by
  rw [versions, h, Option.toList_some, List.flatMap_singleton]

theorem versions_of_getElem?_none {s : Shelves} {subject : Subject}
    (h : s.shelves[subject]? = none) (includeDeleted : Bool) :
    s.versions subject includeDeleted = [] := by
  rw [versions, h]
  rfl

namespace Holds

variable {s : Shelves} {c : Catalog} {subject : Subject} {shelf : Shelf}

/-- A version stands on the shelf of its subject under its own number, and in a row of the catalog.
-/
theorem key_eq (h : s.Holds c) (hshelf : s.shelves[subject]? = some shelf) {n : UInt32}
    {v : Version} (hv : shelf[n]? = some v) :
    v.key = (subject, n) ∧ ∃ row ∈ c.rows, row.version = v := by
  refine (h.mirrors subject n v).mp ?_
  rw [at?, hshelf]
  exact hv

/-- Shelves and rows list the same versions, marked or not. -/
theorem mem_versions_iff (h : s.Holds c) {includeDeleted : Bool} {v : Version} :
    v ∈ s.versions subject includeDeleted ↔ v ∈ c.versions subject includeDeleted := by
  rw [Catalog.mem_versions_iff]
  cases hshelf : s.shelves[subject]? with
  | none =>
    rw [versions_of_getElem?_none hshelf]
    refine ⟨nofun, ?_⟩
    rintro ⟨stored, rfl, -⟩
    have there := (h.mirrors v.subject v.number v).mpr ⟨rfl, stored⟩
    rw [at?, hshelf] at there
    cases there
  | some shelf =>
    rw [versions_of_getElem? hshelf, List.mem_filter, mem_shelf_iff, Bool.or_eq_true]
    constructor
    · rintro ⟨⟨n, hn⟩, shown⟩
      obtain ⟨hkey, stored⟩ := h.key_eq hshelf hn
      exact ⟨stored, (Prod.mk.inj hkey).1, shown⟩
    · rintro ⟨stored, rfl, shown⟩
      have there := (h.mirrors v.subject v.number v).mpr ⟨rfl, stored⟩
      rw [at?, hshelf] at there
      exact ⟨⟨v.number, there⟩, shown⟩

/-- A shelf is in the order of numbers. -/
theorem ascending (h : s.Holds c) (subject : Subject) (includeDeleted : Bool) :
    (s.versions subject includeDeleted).Pairwise fun v w => v.number < w.number := by
  cases hshelf : s.shelves[subject]? with
  | none =>
    rw [versions_of_getElem?_none hshelf]
    exact .nil
  | some shelf =>
    rw [versions_of_getElem? hshelf]
    refine List.Pairwise.filter _ (List.pairwise_map.mpr ?_)
    refine Std.TreeMap.ordered_keys_toList.imp_of_mem fun {a b} ha hb hab => ?_
    have number : ∀ {entry : UInt32 × Version}, entry ∈ shelf.toList →
        entry.2.number = entry.1 := by
      intro entry hentry
      obtain ⟨hkey, -⟩ :=
        h.key_eq hshelf (Std.TreeMap.mem_toList_iff_getElem?_eq_some.mp hentry)
      exact (Prod.mk.inj hkey).2
    rw [number ha, number hb]
    exact compareOfLessAndEq_eq_lt.mp hab

/-- **They list them in the same order as well.** Both ascend by number, and lists that ascend are
told by what is in them. -/
theorem versions_eq (h : s.Holds c) (sorted : c.Sorted) (subject : Subject)
    (includeDeleted : Bool) :
    s.versions subject includeDeleted = c.versions subject includeDeleted := by
  have irreflexive : Std.Irrefl fun v w : Version => v.number < w.number :=
    ⟨fun v => UInt32.lt_irrefl v.number⟩
  have antisymmetric : Std.Antisymm fun v w : Version => v.number < w.number :=
    ⟨fun _ _ before behind => absurd before (UInt32.lt_asymm behind)⟩
  exact List.Pairwise.eq_of_mem_iff (h.ascending subject includeDeleted)
    (sorted.ascending subject includeDeleted) fun v => h.mem_versions_iff

/-- The state of a subject is read off its shelf in one way and off its rows in another. The two
agree because no shelf is empty: an empty one would be a subject that is soft deleted. -/
theorem state_eq (h : s.Holds c) (sorted : c.Sorted) (subject : Subject) :
    s.state subject = c.state subject := by
  rw [Shelves.state, Catalog.state, ← h.versions_eq sorted]
  cases hshelf : s.shelves[subject]? with
  | none => rw [versions_of_getElem?_none hshelf]
  | some shelf =>
    -- There is something on the shelf, so the rows do not miss the subject.
    obtain ⟨n, v, hv⟩ := h.occupied subject shelf hshelf
    have there : v ∈ shelf.versions := mem_shelf_iff.mpr ⟨n, hv⟩
    rw [versions_of_getElem? hshelf]
    simp only [Bool.true_or, List.filter_true]
    cases hversions : shelf.versions with
    | nil =>
      rw [hversions] at there
      cases there
    | cons first rest => rfl

/-- A listing has the subjects that the pattern covers and that are there, and misses none of them.
-/
theorem mem_list_iff (h : s.Holds c) {pattern : Subject.Pattern} {includeDeleted : Bool} :
    subject ∈ s.list pattern includeDeleted ↔
      pattern.covers subject = true ∧ s.hasSubject subject includeDeleted = true := by
  have listed : subject ∈ s.list pattern includeDeleted ↔ ∃ shelf : Shelf,
      (s.shelves[subject]? = some shelf ∧ pattern.covers subject = true) ∧
        (includeDeleted || shelf.versions.any Version.isLive) = true := by
    simp only [list, List.mem_map, List.mem_filter, Prod.exists, exists_and_right, exists_eq_right,
      Std.TreeMap.mem_toList_iff_getElem?_eq_some]
  rw [listed, hasSubject]
  cases hshelf : s.shelves[subject]? with
  | none => simp [versions_of_getElem?_none hshelf]
  | some shelf =>
    obtain ⟨n, v, hv⟩ := h.occupied subject shelf hshelf
    have there : v ∈ shelf.versions := mem_shelf_iff.mpr ⟨n, hv⟩
    rw [versions_of_getElem? hshelf]
    cases includeDeleted with
    | true => simp [List.ne_nil_of_mem there]
    | false => simp

end Holds

/-- Whether shelves are read as the rows of a catalog are. -/
structure Agrees (s : Shelves) (c : Catalog) : Prop where
  versions : ∀ subject includeDeleted,
    s.versions subject includeDeleted = c.versions subject includeDeleted
  hasSubject : ∀ subject includeDeleted,
    s.hasSubject subject includeDeleted = c.hasSubject subject includeDeleted
  state : ∀ subject, s.state subject = c.state subject
  list : ∀ pattern includeDeleted subject,
    subject ∈ s.list pattern includeDeleted ↔ subject ∈ c.list pattern includeDeleted

/-- **Whatever is asked of shelves and rows, the answer is the same.** -/
theorem Holds.agrees {s : Shelves} {c : Catalog} (h : s.Holds c) (sorted : c.Sorted) :
    s.Agrees c := by
  have has : ∀ subject includeDeleted,
      s.hasSubject subject includeDeleted = c.hasSubject subject includeDeleted := by
    intro subject includeDeleted
    rw [hasSubject, Catalog.hasSubject, h.versions_eq sorted]
  refine ⟨h.versions_eq sorted, has, h.state_eq sorted, fun pattern includeDeleted subject => ?_⟩
  rw [h.mem_list_iff, Catalog.mem_list_iff, has]

end Shelves

/-! ## Rows -/

namespace Catalog

open Subject (Behind Spelled Pattern)

/-- That there is a subject and that it has versions to list is one question, whether or not marked
ones count. -/
theorem hasSubject_iff {c : Catalog} {subject : Subject} {includeDeleted : Bool} :
    c.hasSubject subject includeDeleted = true ↔ c.versions subject includeDeleted ≠ [] := by
  rw [hasSubject, Bool.not_eq_true', List.isEmpty_eq_false_iff]

/-- What is known of the readers of a catalog. -/
structure ReadLaws (c : Catalog) : Prop where
  /-- There is a subject, live or at all, if it has versions. -/
  has_iff : ∀ subject includeDeleted,
    c.hasSubject subject includeDeleted = true ↔ c.versions subject includeDeleted ≠ []
  /-- It is in the listing of its tenant exactly then. -/
  listed_iff : ∀ subject includeDeleted,
    subject ∈ c.list (.all subject.tenant) includeDeleted ↔
      c.hasSubject subject includeDeleted = true
  absent_iff : ∀ subject, c.state subject = .absent ↔ ¬ c.hasSubject subject true = true
  live_iff : ∀ subject, c.state subject = .live ↔ c.hasSubject subject false = true
  /-- A listing has the subjects of the tenant in the contexts that are meant, as far as there are
  such subjects and the local part begins their local names. -/
  listing : ∀ tenant raw pattern, Pattern.parse tenant raw = .ok pattern →
    ∃ rest written localPart, Behind tenant raw.toList rest ∧ Spelled rest written localPart ∧
      ∀ includeDeleted subject, subject ∈ c.list pattern includeDeleted ↔
        subject.tenant = tenant ∧ Pattern.Means subject.context written ∧
          localPart <+: subject.localName.toList ∧ c.hasSubject subject includeDeleted = true
  /-- What is read as a name is read as a pattern of the same context and local name. -/
  named : ∀ tenant raw subject, Subject.resolve tenant raw = .ok subject →
    Pattern.parse tenant raw =
      .ok { tenant, context := .exact subject.context, localPrefix := subject.localName }
  /-- A subject that is there, and that some name means, is listed by the name that is printed for
  it. -/
  found : ∀ tenant raw subject includeDeleted, Subject.resolve tenant raw = .ok subject →
    c.hasSubject subject includeDeleted = true →
      ∃ pattern, Pattern.parse tenant subject.rendered = .ok pattern ∧
        subject ∈ c.list pattern includeDeleted

/-- A name, read as a pattern, is about its subject. -/
theorem mem_list_of_resolve {c : Catalog} {tenant raw : String} {subject : Subject}
    {includeDeleted : Bool} (h : Subject.resolve tenant raw = .ok subject)
    (there : c.hasSubject subject includeDeleted = true) :
    ∃ pattern, Pattern.parse tenant raw = .ok pattern ∧
      subject ∈ c.list pattern includeDeleted := by
  refine ⟨_, Pattern.parse_of_resolve h, mem_list_iff.mpr ⟨?_, there⟩⟩
  rw [Pattern.covers, Bool.and_eq_true, Bool.and_eq_true, beq_iff_eq,
    Subject.isSome_dropPrefix?_iff]
  exact ⟨⟨(Subject.wellFormed_of_resolve h).1, beq_self_eq_true _⟩, List.prefix_rfl⟩

/-- Of the rows alone, this is how the four ways to ask about a subject hang together. -/
theorem readLaws (c : Catalog) : c.ReadLaws where
  has_iff _ _ := hasSubject_iff
  listed_iff subject includeDeleted := by
    rw [mem_list_iff, Pattern.covers_all_iff]
    exact and_iff_right rfl
  absent_iff subject := by
    rw [state_eq_absent_iff, hasSubject_iff]
    exact not_not.symm
  live_iff subject := by
    rw [state_eq_live_iff, hasSubject_iff, ne_eq, List.eq_nil_iff_forall_not_mem]
    simp only [mem_versions_live_iff, not_forall, not_not]
  listing tenant raw pattern h := by
    obtain ⟨rest, written, localPart, hbehind, hwritten, covers⟩ := Pattern.covers_iff h
    refine ⟨rest, written, localPart, hbehind, hwritten, fun includeDeleted subject => ?_⟩
    rw [mem_list_iff, covers, and_assoc, and_assoc]
  named _ _ _ := Pattern.parse_of_resolve
  found tenant raw subject includeDeleted h there :=
    mem_list_of_resolve ((Subject.nameLaws tenant).idempotent raw subject h) there

end Catalog

end SchemaRegistry
