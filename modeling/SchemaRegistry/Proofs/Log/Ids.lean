import SchemaRegistry.Proofs.Catalog.Search
import SchemaRegistry.Proofs.Log.Registrations
/-!
# Ids over a history

An id belongs to a schema, and a schema is known by its raw fingerprint. A registration takes the id
of a stored version of that fingerprint, or else an id that nobody had. Two facts about histories
are behind all that is promised of ids. The ids of a log are those from one to the highest, so the
next one is new even if no row is left that had the highest; and stored versions of one fingerprint
share their id, so it does not matter which of them a search meets first.
-/

set_option autoImplicit false

namespace SchemaRegistry

/-! ## The id of a registration -/

namespace Registration

/-- A new id is one above the highest, as integers and not only as words: an id that would overflow
is not given. -/
theorem toInt_of_nextId {highest id : Int64} (h : nextId highest = .ok id) :
    id.toInt = highest.toInt + 1 := by
  unfold nextId at h
  split at h
  · cases h
    have lower := Int64.le_toInt highest
    have one : (1 : Int64).toInt = 1 := by decide
    rw [Int64.toInt_add, one]
    exact Int.bmod_eq_of_le (by omega) (by omega)
  · cases h

/-- Where the id of a candidate comes from. -/
theorem idFor_eq_ok {c : Catalog} (faithful : c.Faithful) {candidate : Candidate} {id : Int64}
    (h : idFor c candidate = .ok id) :
    ∃ wanted, candidate.fingerprint .raw = .ok wanted ∧
      ((∃ row ∈ c.rows, row.version.id = id ∧ row.version.fingerprint .raw = .ok wanted) ∨
        (∀ row ∈ c.rows, row.version.fingerprint .raw ≠ .ok wanted) ∧
          id.toInt = c.maxId.toInt + 1) := by
  unfold idFor at h
  cases hwanted : candidate.fingerprint .raw with
  | error e =>
    rw [hwanted] at h
    cases h
  | ok wanted =>
    rw [hwanted] at h
    refine ⟨wanted, rfl, ?_⟩
    cases hfound : c.findId wanted with
    | error e =>
      simp only [hfound] at h
      cases h
    | ok found =>
      simp only [hfound] at h
      cases found with
      -- A print that is found is that of a stored row, whose id is taken.
      | some stored =>
        cases h
        exact Or.inl (faithful.of_findId hfound)
      | none => exact Or.inr ⟨fun row => faithful.of_findId_none hfound, toInt_of_nextId h⟩

end Registration

/-- Where the id of a new version comes from: from a stored version of the same schema, or from
above all ids that were given out. -/
theorem Catalog.Decides.id_origin {log : List Entry} {v : Version}
    (decided : (ofEntries log).Decides (.register v)) :
    ∃ wanted, v.fingerprint .raw = .ok wanted ∧
      ((∃ row ∈ (ofEntries log).rows, row.version.id = v.id ∧
          row.version.fingerprint .raw = .ok wanted) ∨
        (∀ row ∈ (ofEntries log).rows, row.version.fingerprint .raw ≠ .ok wanted) ∧
          v.id.toInt = (ofEntries log).maxId.toInt + 1) := by
  obtain ⟨tenant, candidate, fidelity, -, appends⟩ := decided.of_register
  have origin := Registration.idFor_eq_ok (faithful_ofEntries log) appends.id
  have same : v.fingerprint .raw =
      Candidate.fingerprint { candidate with references := v.references } .raw := by
    unfold Version.fingerprint Candidate.fingerprint
    rw [appends.format, appends.text]
  rw [← same] at origin
  exact origin

/-- The greater of two ids is that of their integers, so that bounds may be shown without words. -/
theorem Catalog.toInt_greater (a b : Int64) : (greater a b).toInt = max a.toInt b.toInt := by
  unfold greater
  split
  · rename_i h
    have := Int64.lt_iff_toInt_lt.mp h
    omega
  · rename_i h
    have := mt Int64.lt_iff_toInt_lt.mpr h
    omega

@[simp] theorem Version.fingerprint_live (v : Version) (f : Fidelity) :
    v.live.fingerprint f = v.fingerprint f := rfl

/-- A mark of deletion has no part in a fingerprint, so a version keeps its fingerprint when it is
marked. -/
theorem Version.fingerprint_eq_of_live_eq {v w : Version} (h : v.live = w.live) (f : Fidelity) :
    v.fingerprint f = w.fingerprint f := by
  rw [← fingerprint_live v, h, fingerprint_live]

/-! ## The laws of ids -/

/-- Whether the log registers the version. -/
def Registers (log : List Entry) (v : Version) : Prop :=
  ∃ e ∈ log, e.op = .register v

/-- What ids keep to over a log and in the catalog that it leads to. -/
structure IdLaws (log : List Entry) : Prop where
  /-- The ids that were given out are those from one to the highest. -/
  range : ∀ n : Int64, (∃ v, Registers log v ∧ v.id = n) ↔
    1 ≤ n ∧ n ≤ (Catalog.ofEntries log).maxId
  /-- Whatever was registered has a raw fingerprint. -/
  readable : ∀ {v : Version}, Registers log v → ∃ print, v.fingerprint .raw = .ok print
  /-- An id is never given to another schema, whatever has been deleted. -/
  meaning : ∀ {v w : Version}, Registers log v → Registers log w → v.id = w.id →
    v.fingerprint .raw = w.fingerprint .raw
  /-- Of versions that are stored together, those of one schema and no others share an id. -/
  shared : ∀ {a b : Row}, a ∈ (Catalog.ofEntries log).rows → b ∈ (Catalog.ofEntries log).rows →
    (a.version.id = b.version.id ↔ a.version.fingerprint .raw = b.version.fingerprint .raw)

/-- Ids are compared as words in the catalog and as integers here, and the two agree. -/
theorem int64_between_iff {n m : Int64} : 1 ≤ n ∧ n ≤ m ↔ 1 ≤ n.toInt ∧ n.toInt ≤ m.toInt := by
  rw [Int64.le_iff_toInt_le, Int64.le_iff_toInt_le]
  rfl

theorem registers_next {log : List Entry} {op : Op} {now : Instant} {v : Version} :
    Registers (log ++ [Entry.next log op now]) v ↔ Registers log v ∨ op = .register v := by
  constructor
  · rintro ⟨e, he, hop⟩
    rcases List.mem_append.mp he with he | he
    · exact Or.inl ⟨e, he, hop⟩
    · rw [List.mem_singleton.mp he] at hop
      exact Or.inr hop
  · rintro (⟨e, he, hop⟩ | hop)
    · exact ⟨e, List.mem_append_left _ he, hop⟩
    · exact ⟨_, List.mem_append_right _ (List.mem_singleton_self _), hop⟩

namespace IdLaws

variable {log : List Entry}

theorem nil : IdLaws [] where
  range n := by
    rw [int64_between_iff]
    constructor
    · rintro ⟨v, ⟨e, he, -⟩, -⟩
      cases he
    · intro h
      have none : (Catalog.ofEntries []).maxId.toInt = 0 := rfl
      omega
  readable := by
    rintro v ⟨e, he, -⟩
    cases he
  meaning := by
    rintro v w ⟨e, he, -⟩
    cases he
  shared ha := by cases ha

/-- What was registered has an id up to the highest. -/
theorem id_le (laws : IdLaws log) {v : Version} (h : Registers log v) :
    1 ≤ v.id.toInt ∧ v.id.toInt ≤ (Catalog.ofEntries log).maxId.toInt :=
  int64_between_iff.mp ((laws.range v.id).mp ⟨v, h, rfl⟩)

/-- Every id up to the highest has been given out. -/
theorem exists_of_le (laws : IdLaws log) {n : Int64} (positive : 1 ≤ n.toInt)
    (h : n.toInt ≤ (Catalog.ofEntries log).maxId.toInt) : ∃ v, Registers log v ∧ v.id = n :=
  (laws.range n).mpr (int64_between_iff.mpr ⟨positive, h⟩)

/-- A new version has the id of every stored version of its schema. -/
theorem id_eq_of_fingerprint_eq (laws : IdLaws log) {v : Version} {row : Row}
    (decided : (Catalog.ofEntries log).Decides (.register v))
    (hrow : row ∈ (Catalog.ofEntries log).rows)
    (hprint : row.version.fingerprint .raw = v.fingerprint .raw) : row.version.id = v.id := by
  obtain ⟨wanted, hwanted, ⟨first, hfirst, hid, hprint'⟩ | ⟨fresh, -⟩⟩ := decided.id_origin
  · rw [← hid]
    apply (laws.shared hrow hfirst).mpr
    rw [hprint, hwanted, hprint']
  · exact absurd (hprint.trans hwanted) (fresh row hrow)

end IdLaws

namespace History

variable {log : List Entry}

/-- What a row stores some entry has registered, apart from the mark. -/
theorem registers_of_mem (h : History log) {row : Row}
    (hrow : row ∈ (Catalog.ofEntries log).rows) : Registers log row.version.live :=
  h.exists_registration hrow

/-- Ids are given from one upwards, so the highest is never below zero. -/
theorem maxId_nonneg (h : History log) : 0 ≤ (Catalog.ofEntries log).maxId.toInt := by
  induction h with
  | empty => exact Int.le_refl 0
  | append past decided now ih =>
    rename_i log op
    rw [past.ofEntries_next]
    cases op with
    | register v =>
      have raised := Catalog.toInt_greater (Catalog.ofEntries log).maxId v.id
      change 0 ≤ (greater (Catalog.ofEntries log).maxId v.id).toInt
      omega
    | softDelete => exact ih
    | permanentDelete => exact ih

/-- A new version takes an id that was given out, or the next. -/
theorem id_le_next (h : History log) (laws : IdLaws log) {v : Version}
    (decided : (Catalog.ofEntries log).Decides (.register v)) :
    1 ≤ v.id.toInt ∧ v.id.toInt ≤ (Catalog.ofEntries log).maxId.toInt + 1 := by
  obtain ⟨wanted, -, ⟨row, hrow, hid, -⟩ | ⟨-, hnext⟩⟩ := decided.id_origin
  · have given := laws.id_le (h.registers_of_mem hrow)
    change 1 ≤ row.version.id.toInt ∧ row.version.id.toInt ≤ _ at given
    rw [hid] at given
    omega
  · have nonneg := h.maxId_nonneg
    omega

/-- A new version has the schema of every version that was registered with its id. -/
theorem fingerprint_eq_of_id_eq (h : History log) (laws : IdLaws log) {v w : Version}
    (decided : (Catalog.ofEntries log).Decides (.register v)) (hw : Registers log w)
    (hid : w.id = v.id) : w.fingerprint .raw = v.fingerprint .raw := by
  obtain ⟨wanted, hwanted, ⟨row, hrow, hrowId, hprint⟩ | ⟨-, hnext⟩⟩ := decided.id_origin
  · have same := laws.meaning hw (h.registers_of_mem hrow) (hid.trans hrowId.symm)
    rw [same, Version.fingerprint_live, hprint, hwanted]
  · -- Nothing that was registered has an id above the highest.
    have given := laws.id_le hw
    rw [hid] at given
    omega

/-- A deletion keeps the laws: it gives out no id, and every row that it leaves was there before, up
to its mark. -/
theorem idLaws_delete (h : History log) (laws : IdLaws log) {op : Op}
    (deletes : ∀ v, op ≠ .register v) (now : Instant) :
    IdLaws (log ++ [Entry.next log op now]) := by
  have registers : ∀ v, Registers (log ++ [Entry.next log op now]) v ↔ Registers log v := by
    intro v
    rw [registers_next, or_iff_left (deletes v)]
  have highest : (Catalog.ofEntries (log ++ [Entry.next log op now])).maxId =
      (Catalog.ofEntries log).maxId := by
    rw [h.ofEntries_next]
    cases op with
    | register v => exact absurd rfl (deletes v)
    | softDelete => rfl
    | permanentDelete => rfl
  have before : ∀ {row}, row ∈ (Catalog.ofEntries (log ++ [Entry.next log op now])).rows →
      ∃ old ∈ (Catalog.ofEntries log).rows, row.version.live = old.version.live := by
    intro row hrow
    rw [h.ofEntries_next] at hrow
    rcases Catalog.mem_rows_perform hrow with ⟨v, hop, -⟩ | ⟨old, hold, hlive, -⟩
    · exact absurd hop (deletes v)
    · exact ⟨old, hold, hlive⟩
  refine ⟨fun n => ?_, fun hv => ?_, fun hv hw hid => ?_, fun {a b} ha hb => ?_⟩
  · simp only [registers, highest]
    exact laws.range n
  · exact laws.readable ((registers _).mp hv)
  · exact laws.meaning ((registers _).mp hv) ((registers _).mp hw) hid
  · obtain ⟨a₀, ha₀, hlive⟩ := before ha
    obtain ⟨b₀, hb₀, hlive'⟩ := before hb
    rw [(Version.content_of_live_eq hlive).2.2.1, (Version.content_of_live_eq hlive').2.2.1,
      Version.fingerprint_eq_of_live_eq hlive, Version.fingerprint_eq_of_live_eq hlive']
    exact laws.shared ha₀ hb₀

/-- **A registration keeps the laws of ids.** Either an equal schema has an id already, and the new
version gets that, or none has, and it gets one above all that were ever given. In both cases the id
belongs to one schema. -/
theorem idLaws_register (h : History log) (laws : IdLaws log) {v : Version}
    (decided : (Catalog.ofEntries log).Decides (.register v)) (now : Instant) :
    IdLaws (log ++ [Entry.next log (.register v) now]) := by
  have registers : ∀ w, Registers (log ++ [Entry.next log (.register v) now]) w ↔
      Registers log w ∨ v = w := by
    intro w
    rw [registers_next, Op.register.injEq]
  have fold := h.ofEntries_next (.register v) now
  have bound := h.id_le_next laws decided
  refine ⟨fun n => ?_, fun hw => ?_, fun hu hw hid => ?_, fun {a b} ha hb => ?_⟩
  · -- Every id up to the new maximum is given: the old ones were, and the new version has the one
    -- above them or an old one.
    have highest := Catalog.toInt_greater (Catalog.ofEntries log).maxId v.id
    rw [fold, int64_between_iff]
    change _ ↔ _ ∧ n.toInt ≤ (greater (Catalog.ofEntries log).maxId v.id).toInt
    constructor
    · rintro ⟨w, hw, rfl⟩
      rcases (registers w).mp hw with hw | rfl
      · have given := laws.id_le hw
        omega
      · omega
    · rintro ⟨positive, hle⟩
      by_cases given : n.toInt ≤ (Catalog.ofEntries log).maxId.toInt
      · obtain ⟨w, hw, hid⟩ := laws.exists_of_le positive given
        exact ⟨w, (registers w).mpr (Or.inl hw), hid⟩
      · exact ⟨v, (registers v).mpr (Or.inr rfl), Int64.toInt_inj.mp (by omega)⟩
  · rcases (registers _).mp hw with hw | rfl
    · exact laws.readable hw
    · obtain ⟨wanted, hwanted, -⟩ := decided.id_origin
      exact ⟨wanted, hwanted⟩
  · rcases (registers _).mp hu with hu | rfl
    · rcases (registers _).mp hw with hw | rfl
      · exact laws.meaning hu hw hid
      · exact h.fingerprint_eq_of_id_eq laws decided hu hid
    · rcases (registers _).mp hw with hw | rfl
      · exact (h.fingerprint_eq_of_id_eq laws decided hw hid.symm).symm
      · rfl
  · rw [fold] at ha hb
    -- Against the rows that were there it is enough to compare with the new version, whose id was
    -- found by its fingerprint or is new.
    have old : ∀ {row : Row}, row ∈ (Catalog.ofEntries log).rows →
        (row.version.id = v.id ↔ row.version.fingerprint .raw = v.fingerprint .raw) := by
      intro row hrow
      constructor
      · exact h.fingerprint_eq_of_id_eq laws decided (w := row.version.live)
          (h.registers_of_mem hrow)
      · exact laws.id_eq_of_fingerprint_eq decided hrow
    rcases Row.eq_or_mem_of_mem_insert ha with rfl | ha
    · rcases Row.eq_or_mem_of_mem_insert hb with rfl | hb
      · exact iff_of_true rfl rfl
      · exact eq_comm.trans ((old hb).trans eq_comm)
    · rcases Row.eq_or_mem_of_mem_insert hb with rfl | hb
      · exact old ha
      · exact laws.shared ha hb

/-- The laws of ids hold over every history. -/
theorem idLaws (h : History log) : IdLaws log := by
  induction h with
  | empty => exact .nil
  | append past decided now ih =>
    rename_i log op
    cases op with
    | register v => exact past.idLaws_register ih decided now
    | softDelete => exact past.idLaws_delete ih (fun v hop => by cases hop) now
    | permanentDelete => exact past.idLaws_delete ih (fun v hop => by cases hop) now

end History

end SchemaRegistry
