import SchemaRegistry.Proofs.Log.History
/-!
# Numbers and rows over a history

The registrations of a subject are counted by its mark, which no deletion touches. From this alone
follows what is promised about numbers: the registrations of a subject are numbered one by one, a
number names one registration for ever, and a row says what its registration said.

The rest compares the catalogs of two prefixes. A number that the shorter prefix has given out is
not given out again behind it, so a row of that number in the longer prefix is a row of the shorter
one that has at most been marked. Hence marks stay, and what was removed for good stays away.
-/

set_option autoImplicit false

namespace SchemaRegistry

/-- The version that an operation registers. -/
def Op.registered? : Op → Option Version
  | .register v => some v
  | _ => none

theorem Op.registered?_eq_some {op : Op} {v : Version} :
    op.registered? = some v ↔ op = .register v := by
  cases op with
  | register w => exact ⟨fun h => by cases h; rfl, fun h => by cases h; rfl⟩
  | softDelete => exact ⟨nofun, nofun⟩
  | permanentDelete => exact ⟨nofun, nofun⟩

/-- The versions of a subject that a log registers, in order. -/
def registrations (log : List Entry) (subject : Subject) : List Version :=
  (log.filterMap fun e => e.op.registered?).filter (·.subject = subject)

theorem registrations_concat (log : List Entry) (e : Entry) (subject : Subject) :
    registrations (log ++ [e]) subject =
      registrations log subject ++ e.op.registered?.toList.filter (·.subject = subject) := by
  rw [registrations, registrations, List.filterMap_append, List.filter_append]
  congr 2

variable {log : List Entry}

/-! ## Marks -/

/-- What was registered has a number up to the mark. -/
theorem Contiguous.number_le (h : Contiguous log) {e : Entry} {v : Version} (he : e ∈ log)
    (hop : e.op = .register v) :
    v.number.toNat ≤ ((Catalog.ofEntries log).highestVersion v.subject).toNat := by
  induction log using List.reverseRecOn with
  | nil => cases he
  | append_singleton log last ih =>
    obtain ⟨hlog, hoffset⟩ := h.of_concat
    have ahead : (Catalog.ofEntries log).applied < last.offset := by
      rw [hlog.applied, hoffset]
      exact Nat.lt_succ_self _
    rw [Catalog.ofEntries_append, Catalog.applyAll_singleton ahead]
    change _ ≤ (((Catalog.ofEntries log).perform last.op).highestVersion v.subject).toNat
    rcases List.mem_append.mp he with he | he
    · exact (ih hlog he).trans (Catalog.highestVersion_le_perform _ _ _)
    · rw [List.mem_singleton.mp he] at hop
      rw [hop, Catalog.highestVersion_register, if_pos rfl]
      exact Nat.le_max_right _ _

/-- Where every registration goes above the mark, a number has one registration. -/
theorem Contiguous.place_unique (h : Contiguous log)
    (above : ∀ n entry v, log[n]? = some entry → entry.op = .register v →
      v.number.toNat = ((Catalog.ofEntries (log.take n)).highestVersion v.subject).toNat + 1)
    {p q : Nat} {d e : Entry} {v w : Version} (hp : log[p]? = some d) (hq : log[q]? = some e)
    (hv : d.op = .register v) (hw : e.op = .register w) (hkey : v.key = w.key) : p = q := by
  -- A later registration of the subject goes above all that came before it.
  have later : ∀ {p q : Nat} {d e : Entry} {v w : Version}, log[p]? = some d → log[q]? = some e →
      d.op = .register v → e.op = .register w → v.key = w.key → ¬ p < q := by
    intro p q d e v w hp hq hv hw hkey hlt
    obtain ⟨hsubject, hnumber⟩ := Version.key_eq_iff.mp hkey
    have hd : d ∈ log.take q := List.mem_of_getElem? (by rw [List.getElem?_take_of_lt hlt, hp])
    have hle := (h.take q).number_le hd hv
    have habove := above q e w hq hw
    rw [← hsubject, ← hnumber] at habove
    omega
  have hpq := later hp hq hv hw hkey
  have hqp := later hq hp hw hv hkey.symm
  omega

namespace History

/-! ## Numbers -/

/-- The mark of a subject counts its registrations. -/
theorem toNat_highestVersion (h : History log) (subject : Subject) :
    ((Catalog.ofEntries log).highestVersion subject).toNat =
      (registrations log subject).length := by
  induction h with
  | empty => rfl
  | append past decided now ih =>
    rename_i log op
    rw [past.ofEntries_next, registrations_concat, List.length_append, ← ih]
    change (((Catalog.ofEntries log).perform op).highestVersion subject).toNat = _
    cases op with
    | register v =>
      obtain ⟨tenant, candidate, fidelity, named, appends⟩ := decided.of_register
      rw [Catalog.highestVersion_register]
      by_cases hv : subject = v.subject
      · have hlast : [v].filter (fun w => decide (w.subject = subject)) = [v] :=
          List.filter_cons_of_pos (decide_eq_true hv.symm)
        change _ = _ + ([v].filter _).length
        -- The new number is one above the mark, as the list is one longer.
        rw [if_pos hv, hlast, appends.number, hv, List.length_singleton]
        omega
      · have hlast : [v].filter (fun w => decide (w.subject = subject)) = [] :=
          List.filter_cons_of_neg (by rw [decide_eq_true_eq]; exact Ne.symm hv)
        change _ = _ + ([v].filter _).length
        rw [if_neg hv, hlast]
        rfl
    | softDelete => rfl
    | permanentDelete => rfl

/-- The registrations of a subject are numbered from one without gaps. -/
theorem number_of_getElem? (h : History log) {subject : Subject} {k : Nat} {v : Version}
    (hv : (registrations log subject)[k]? = some v) : v.number.toNat = k + 1 := by
  induction h with
  | empty => cases hv
  | append past decided now ih =>
    rename_i log op
    rw [registrations_concat] at hv
    rcases Nat.lt_or_ge k (registrations log subject).length with hk | hk
    · rw [List.getElem?_append_left hk] at hv
      exact ih hv
    · rw [List.getElem?_append_right hk] at hv
      obtain ⟨hop, hsubject⟩ := List.mem_filter.mp (List.mem_of_getElem? hv)
      rw [Option.mem_toList, Op.registered?_eq_some] at hop
      rw [decide_eq_true_eq] at hsubject
      change op = _ at hop
      subst hop hsubject
      obtain ⟨tenant, candidate, fidelity, named, appends⟩ := decided.of_register
      -- What is registered last stands right behind all that were registered before.
      have hlast : k - (registrations log v.subject).length < 1 :=
        (List.getElem?_eq_some_iff.mp hv).1.trans_le (List.length_filter_le _ _)
      rw [appends.number, past.toNat_highestVersion]
      omega

/-- A number has one registration. -/
theorem place_unique (h : History log) {p q : Nat} {d e : Entry} {v w : Version}
    (hp : log[p]? = some d) (hq : log[q]? = some e) (hv : d.op = .register v)
    (hw : e.op = .register w) (hkey : v.key = w.key) : p = q := by
  refine h.contiguous.place_unique (fun n entry u hentry hop => ?_) hp hq hv hw hkey
  have decided := (h.of_getElem? hentry).1
  rw [hop] at decided
  obtain ⟨tenant, candidate, fidelity, named, appends⟩ := decided.of_register
  exact appends.number

/-! ## Rows -/

/-- A row is a registration of the log, up to its mark. -/
theorem exists_registration (h : History log) {row : Row}
    (hrow : row ∈ (Catalog.ofEntries log).rows) : ∃ e ∈ log, e.op = .register row.version.live := by
  induction h generalizing row with
  | empty => cases hrow
  | append past decided now ih =>
    rename_i log op
    rw [past.ofEntries_next] at hrow
    rcases Catalog.mem_rows_perform hrow with ⟨v, hop, rfl⟩ | ⟨old, hold, hlive, -⟩
    · refine ⟨_, List.mem_append_right _ (List.mem_singleton_self _), ?_⟩
      obtain ⟨tenant, candidate, fidelity, named, appends⟩ := (hop ▸ decided).of_register
      have hdeleted := appends.isDeleted
      obtain ⟨_, _, _, _, _, _, _⟩ := v
      cases hdeleted
      exact hop
    · obtain ⟨e, he, hop⟩ := ih hold
      exact ⟨e, List.mem_append_left _ he, hlive ▸ hop⟩

/-- The place in the log where a row of a prefix was registered. -/
theorem exists_place (h : History log) {k : Nat} {row : Row}
    (hrow : row ∈ (Catalog.ofEntries (log.take k)).rows) :
    ∃ p e, p < k ∧ log[p]? = some e ∧ e.op = .register row.version.live := by
  obtain ⟨e, he, hop⟩ := (h.take k).exists_registration hrow
  obtain ⟨p, hp⟩ := List.mem_iff_getElem?.mp he
  rw [List.getElem?_take] at hp
  split at hp
  · rename_i hpk
    exact ⟨p, e, hpk, hp, hop⟩
  · cases hp

/-- A row was decided upon by a registration, on the catalog of some prefix. -/
theorem exists_decided (h : History log) {row : Row}
    (hrow : row ∈ (Catalog.ofEntries log).rows) :
    ∃ k, (Catalog.ofEntries (log.take k)).Decides (.register row.version.live) := by
  obtain ⟨e, he, hop⟩ := h.exists_registration hrow
  obtain ⟨k, hk⟩ := List.mem_iff_getElem?.mp he
  exact ⟨k, hop ▸ (h.of_getElem? hk).1⟩

/-- A stored number is not above the mark. -/
theorem number_le_of_mem (h : History log) {row : Row}
    (hrow : row ∈ (Catalog.ofEntries log).rows) :
    row.version.number.toNat ≤
      ((Catalog.ofEntries log).highestVersion row.version.subject).toNat := by
  obtain ⟨e, he, hop⟩ := h.exists_registration hrow
  exact h.contiguous.number_le (v := row.version.live) he hop

/-- Two rows of one key say the same, whichever prefixes of the log they are found in. -/
theorem live_eq_of_key_eq (h : History log) {j k : Nat} {a b : Row}
    (ha : a ∈ (Catalog.ofEntries (log.take j)).rows)
    (hb : b ∈ (Catalog.ofEntries (log.take k)).rows) (hkey : a.version.key = b.version.key) :
    a.version.live = b.version.live := by
  obtain ⟨p, d, -, hp, hv⟩ := h.exists_place ha
  obtain ⟨q, e, -, hq, hw⟩ := h.exists_place hb
  have hpq := h.place_unique hp hq hv hw hkey
  subst hpq
  rw [hp] at hq
  cases hq
  rw [hv] at hw
  exact Op.register.inj hw

/-! ## Two prefixes -/

/-- The mark of a subject only rises along the log. -/
theorem highestVersion_mono (h : History log) (subject : Subject) {j k : Nat} (hjk : j ≤ k) :
    ((Catalog.ofEntries (log.take j)).highestVersion subject).toNat ≤
      ((Catalog.ofEntries (log.take k)).highestVersion subject).toNat := by
  rw [(h.take j).toNat_highestVersion, (h.take k).toNat_highestVersion]
  exact ((((log.take_sublist_take_left hjk).filterMap _).filter _)).length_le

/-- A row whose number was given out before the `j`-th entry was there before that entry, and has at
most been marked since. -/
theorem exists_earlier_row (h : History log) {j k : Nat} (hjk : j ≤ k) {row : Row}
    (hrow : row ∈ (Catalog.ofEntries (log.take k)).rows)
    (given : row.version.number.toNat ≤
      ((Catalog.ofEntries (log.take j)).highestVersion row.version.subject).toNat) :
    ∃ old ∈ (Catalog.ofEntries (log.take j)).rows, row.version.live = old.version.live ∧
      (old.version.isDeleted = true → row.version.isDeleted = true) := by
  induction k, hjk using Nat.le_induction generalizing row with
  | base => exact ⟨row, hrow, rfl, id⟩
  | succ k hjk ih =>
    cases he : log[k]? with
    | none =>
      -- Past the end of the log there is nothing that could change a row.
      have hlength := List.getElem?_eq_none_iff.mp he
      rw [List.take_of_length_le (by omega), ← List.take_of_length_le hlength] at hrow
      exact ih hrow given
    | some e =>
      obtain ⟨decided, -, hfold⟩ := h.of_getElem? he
      rw [hfold] at hrow
      rcases Catalog.mem_rows_perform hrow with ⟨v, hop, rfl⟩ | ⟨old, hold, hlive, hmark⟩
      · -- A registration here would be numbered above the mark.
        obtain ⟨tenant, candidate, fidelity, named, appends⟩ := (hop ▸ decided).of_register
        have hmono := h.highestVersion_mono v.subject hjk
        have habove := appends.number
        change v.number.toNat ≤ _ at given
        change _ ≤ ((Catalog.ofEntries (log.take j)).highestVersion v.subject).toNat at given
        omega
      · -- An older row is the same but for its mark, so its number is bounded as well.
        obtain ⟨hsubject, hnumber, -⟩ := Version.content_of_live_eq hlive
        rw [hsubject, hnumber] at given
        obtain ⟨first, hfirst, hlive', hmark'⟩ := ih hold given
        exact ⟨first, hfirst, hlive.trans hlive', fun hdeleted => hmark (hmark' hdeleted)⟩

/-- A mark of deletion stays as long as its row. -/
theorem isDeleted_mono (h : History log) {j k : Nat} (hjk : j ≤ k) {old row : Row}
    (hold : old ∈ (Catalog.ofEntries (log.take j)).rows)
    (hrow : row ∈ (Catalog.ofEntries (log.take k)).rows)
    (hkey : old.version.key = row.version.key) (deleted : old.version.isDeleted = true) :
    row.version.isDeleted = true := by
  obtain ⟨hsubject, hnumber⟩ := Version.key_eq_iff.mp hkey
  have given := (h.take j).number_le_of_mem hold
  rw [hsubject, hnumber] at given
  obtain ⟨first, hfirst, hlive, hmark⟩ := h.exists_earlier_row hjk hrow given
  have hsame : first.version.key = old.version.key :=
    (congrArg Version.key hlive).symm.trans hkey.symm
  rw [(Catalog.sorted_ofEntries _).eq_of_key hfirst hold hsame] at hmark
  exact hmark deleted

/-- What was removed for good is in no catalog that has gone past the removal. -/
theorem not_stores_of_permanentDelete (h : History log) {p k : Nat} {e : Entry} {subject : Subject}
    {numbers : List UInt32} {n : UInt32} (he : log[p]? = some e)
    (hop : e.op = .permanentDelete subject numbers) (hn : n ∈ numbers) (hpk : p < k) :
    ¬ (Catalog.ofEntries (log.take k)).Stores (subject, n) := by
  rintro ⟨row, hrow, hkey⟩
  obtain ⟨decided, -, hfold⟩ := h.of_getElem? he
  rw [hop] at decided hfold
  -- The number was given out, since a row of it was there to be removed.
  obtain ⟨removed, hremoved, hkey'⟩ := (decided.of_permanentDelete.1 n).mp hn
  obtain ⟨hsubject, hnumber⟩ := Prod.mk.inj (hkey'.trans hkey.symm)
  have given := (h.take p).number_le_of_mem hremoved
  rw [hsubject, hnumber] at given
  have given' := given.trans (h.highestVersion_mono row.version.subject (Nat.le_succ p))
  obtain ⟨old, hold, hlive, -⟩ := h.exists_earlier_row hpk hrow given'
  obtain ⟨hsubject', hnumber', -⟩ := Version.content_of_live_eq hlive
  rw [hfold] at hold
  cases hkey
  refine Catalog.not_mem_rows_permanentDelete hold hsubject'.symm ?_
  rw [← hnumber']
  exact hn

end History

/-! ## The laws of versions -/

/-- What versions keep to over a log and in every catalog that follows it. -/
structure VersionLaws (log : List Entry) : Prop where
  /-- The registrations of a subject are numbered from one, whatever is deleted in between. -/
  numbered : ∀ {subject : Subject} {k : Nat} {v : Version},
    (registrations log subject)[k]? = some v → v.number.toNat = k + 1
  /-- A row is what its registration was, apart from the mark, and its key has no other. -/
  registered : ∀ {view : Catalog} {row : Row}, view.Follows log → row ∈ view.rows →
    ∃ (p : Nat) (e : Entry), log[p]? = some e ∧ e.op = .register row.version.live ∧
      ∀ {q : Nat} {d : Entry} {w : Version}, log[q]? = some d → d.op = .register w →
        w.key = row.version.key → q = p
  /-- A version that is marked in a catalog is marked in every catalog further on. -/
  marked : ∀ {early late : Catalog} {old row : Row}, early.Follows log → late.Follows log →
    early.applied ≤ late.applied → old ∈ early.rows → row ∈ late.rows →
    old.version.key = row.version.key → old.version.isDeleted = true →
    row.version.isDeleted = true
  /-- A version that an entry removes for good is in no catalog that has applied the entry. -/
  removed : ∀ {view : Catalog} {e : Entry} {subject : Subject} {numbers : List UInt32}
    {n : UInt32}, view.Follows log → e ∈ log → e.op = .permanentDelete subject numbers →
    n ∈ numbers → e.offset ≤ view.applied → ¬ view.Stores (subject, n)

theorem History.versionLaws {log : List Entry} (h : History log) : VersionLaws log where
  numbered := h.number_of_getElem?
  registered {view row} hview hrow := by
    rw [hview.eq_ofEntries] at hrow
    obtain ⟨p, e, -, hp, hop⟩ := h.exists_place hrow
    exact ⟨p, e, hp, hop, fun hq hw hkey => h.place_unique hq hp hw hop hkey⟩
  marked hearly hlate hle hold hrow hkey hdeleted := by
    rw [hearly.eq_ofEntries] at hold
    rw [hlate.eq_ofEntries] at hrow
    exact h.isDeleted_mono hle hold hrow hkey hdeleted
  removed {view e subject numbers n} hview he hop hn hle := by
    obtain ⟨p, hp⟩ := List.mem_iff_getElem?.mp he
    have hoffset := (h.of_getElem? hp).2.1
    rw [hview.eq_ofEntries]
    exact h.not_stores_of_permanentDelete hp hop hn (by omega)

end SchemaRegistry
