import SchemaRegistry.Node.Feed
import SchemaRegistry.Proofs.Log.Tenants
/-!
# Views of a log

A view is a catalog of a log's entries up to an offset. Offsets need not count: of a log it is only
asked that they ascend, and entries are told apart by them and not by their places. In memory a
reading takes the entries from a place on, in a table the rows behind an offset, and a row that is
no entry fails it as a whole. Both give the entries behind the offset, if they give any.

A log that grows at its end leaves its views as they are, and a view that applies the entries that
it has read stays one after each of them.
-/

set_option autoImplicit false

namespace SchemaRegistry

/-! ## Applying again -/

namespace Catalog

/-- What has been applied is not applied again, which is why reading the log twice does no harm. -/
theorem apply_of_le {c : Catalog} {e : Entry} (h : e.offset ≤ c.applied) : c.apply e = c := by
  rw [apply, applyAt, if_pos h]

/-- Entries that have been applied already change nothing, in whatever order they come. -/
theorem applyAll_of_le {c : Catalog} {entries : List Entry}
    (h : ∀ e ∈ entries, e.offset ≤ c.applied) : c.applyAll entries = c := by
  induction entries with
  | nil => rfl
  | cons e rest ih =>
    obtain ⟨he, hrest⟩ := List.forall_mem_cons.mp h
    rw [applyAll, List.foldl_cons, apply_of_le he]
    exact ih hrest

/-- A catalog never goes back, not even by an old entry. -/
theorem applied_apply (c : Catalog) (e : Entry) : (c.apply e).applied = max c.applied e.offset := by
  by_cases h : e.offset ≤ c.applied
  · rw [apply_of_le h]
    omega
  · rw [apply, applyAt, if_neg h]
    change e.offset = _
    omega

end Catalog

/-! ## Entries by their offsets -/

namespace Store

/-- The rows of a table. -/
def rows : Store → List LogRow
  | memory _ => []
  | table rows => rows.getD []

/-- The entries of a log. Rows that are none are left out. -/
def entries : Store → List Entry
  | memory entries => entries
  | table rows => (rows.getD []).filterMap fun row => row.entry?.toOption

/-- The entries up to an offset. -/
def upTo (s : Store) (offset : Nat) : List Entry :=
  s.entries.filter fun e => e.offset ≤ offset

/-- The entries behind an offset. -/
def behind (s : Store) (offset : Nat) : List Entry :=
  s.entries.filter fun e => offset < e.offset

/-- Whether the offsets are as they come from appending. -/
def Ordered : Store → Prop
  | memory entries => Contiguous entries
  | table rows => (rows.getD []).Pairwise fun a b => a.offset < b.offset

end Store

theorem LogRow.entry?_of_toOption {row : LogRow} {e : Entry} (h : row.entry?.toOption = some e) :
    row.entry? = .ok e := by
  rcases hrow : row.entry? with flaw | d
  · simp [hrow, Except.toOption] at h
  · rw [hrow] at h
    exact congrArg _ (Option.some.inj h)

namespace Store

variable {s s' : Store} {offset : Nat}

/-- Rows that cannot be read are left out of the entries, and what remains is still in order. -/
theorem Ordered.ascending (h : s.Ordered) : s.entries.Pairwise fun a b => a.offset < b.offset := by
  rcases s with entries | rows
  · exact (Contiguous.ascending h).ordered
  · refine List.pairwise_filterMap.mpr (List.Pairwise.imp ?_ h)
    intro a b hab d hd e he
    have first := LogRow.offset_eq_of_read (LogRow.entry?_of_toOption hd)
    have second := LogRow.offset_eq_of_read (LogRow.entry?_of_toOption he)
    omega

/-- Entries in order are those up to an offset and those behind it. -/
theorem filter_append_filter {entries : List Entry}
    (h : entries.Pairwise fun a b => a.offset < b.offset) (offset : Nat) :
    (entries.filter fun e => e.offset ≤ offset) ++ (entries.filter fun e => offset < e.offset) =
      entries := by
  induction entries with
  | nil => rfl
  | cons e rest ih =>
    obtain ⟨hfirst, hrest⟩ := List.pairwise_cons.mp h
    by_cases he : e.offset ≤ offset
    · simp only [List.filter_cons, decide_eq_true he, Nat.not_lt.mpr he, decide_false, if_true,
        Bool.false_eq_true, if_false, List.cons_append, ih hrest]
    · -- Offsets ascend, so from the first entry behind the place on all are behind it.
      have none_up : rest.filter (fun e => e.offset ≤ offset) = [] := by
        rw [List.filter_eq_nil_iff]
        intro d hd
        have := hfirst d hd
        simp only [decide_eq_true_eq]
        omega
      have all_behind : rest.filter (fun e => offset < e.offset) = rest := by
        rw [List.filter_eq_self]
        intro d hd
        have := hfirst d hd
        simp only [decide_eq_true_eq]
        omega
      simp only [List.filter_cons, he, decide_false, Bool.false_eq_true, if_false,
        Nat.lt_of_not_le he, decide_true, if_true, none_up, all_behind, List.nil_append]

/-- An offset cuts an ordered log in two, also an offset that no entry has. -/
theorem Ordered.upTo_append_behind (h : s.Ordered) (offset : Nat) :
    s.upTo offset ++ s.behind offset = s.entries :=
  filter_append_filter h.ascending offset

/-- What a shorter log has up to an offset is at the front of what a longer one has up to a later
offset. -/
theorem upTo_prefix (h : s'.Ordered) (grown : s.entries <+: s'.entries) {later : Nat}
    (hle : offset ≤ later) : s.upTo offset <+: s'.upTo later := by
  have front : s'.upTo offset <+: s'.upTo later := by
    have hfilter : (s'.upTo offset).filter (fun e => e.offset ≤ later) = s'.upTo offset := by
      rw [List.filter_eq_self]
      intro e he
      have hup : e.offset ≤ offset := by simpa using (List.mem_filter.mp he).2
      simp only [decide_eq_true_eq]
      omega
    rw [upTo.eq_def s' later, ← h.upTo_append_behind offset, List.filter_append, hfilter]
    exact List.prefix_append _ _
  exact (grown.filter _).trans front

/-- Whether no entry is behind an offset. -/
def EndsBy (s : Store) (offset : Nat) : Prop :=
  ∀ e ∈ s.entries, e.offset ≤ offset

/-! ## Reading -/

end Store

/-- Where offsets count, the entries behind an offset are those from a place on. -/
theorem Contiguous.filter_eq_drop {log : List Entry} (h : Contiguous log) (k : Nat) :
    (log.filter fun e => k < e.offset) = log.drop k := by
  have front : (log.take k).filter (fun e => k < e.offset) = [] := by
    rw [List.filter_eq_nil_iff]
    intro e he
    obtain ⟨i, hi⟩ := List.mem_iff_getElem?.mp he
    rw [List.getElem?_take] at hi
    split at hi
    · have hoffset := h i e hi
      simp only [decide_eq_true_eq]
      omega
    · simp at hi
  have back : (log.drop k).filter (fun e => k < e.offset) = log.drop k := by
    rw [List.filter_eq_self]
    intro e he
    obtain ⟨i, hi⟩ := List.mem_iff_getElem?.mp he
    rw [List.getElem?_drop] at hi
    have hoffset := h (k + i) e hi
    simp only [decide_eq_true_eq]
    omega
  calc (log.filter fun e => k < e.offset)
      = (log.take k ++ log.drop k).filter (fun e => k < e.offset) := by rw [List.take_append_drop]
    _ = log.drop k := by rw [List.filter_append, front, back, List.nil_append]

namespace Store

variable {s s' : Store} {offset : Nat}

/-- A reading of rows gives the entries behind the offset. -/
theorem filter_of_mapM {rows : List LogRow} {read : List Entry}
    (h : (rows.filter fun row => (offset : Int) < row.offset).mapM LogRow.entry? = .ok read) :
    read = (rows.filterMap fun row => row.entry?.toOption).filter fun e => offset < e.offset := by
  induction rows generalizing read with
  | nil => simpa [pure, Except.pure] using h.symm
  | cons row rest ih =>
    by_cases ahead : (offset : Int) < row.offset
    · simp only [List.filter_cons, ahead, decide_true, if_true] at h
      rw [mapM_eq_ok_iff, List.forall₂_cons_left_iff] at h
      obtain ⟨e, more, he, hmore, rfl⟩ := h
      have hoffset := LogRow.offset_eq_of_read he
      have hlt : offset < e.offset := by omega
      rw [ih (mapM_eq_ok_iff.mpr hmore), List.filterMap_cons, he]
      simp only [Except.toOption, List.filter_cons, hlt, decide_true, if_true]
    · simp only [List.filter_cons, ahead, decide_false, Bool.false_eq_true, if_false] at h
      rw [ih h, List.filterMap_cons]
      rcases he : row.entry? with flaw | e
      · rfl
      · have hoffset := LogRow.offset_eq_of_read he
        have hle : ¬ offset < e.offset := by omega
        simp only [Except.toOption, List.filter_cons, hle, decide_false, Bool.false_eq_true,
          if_false]

/-- A reading that succeeds has met no fault. -/
theorem readAfter_of_read {fault : Option LogFailure} {read : List Entry}
    (h : s.read fault offset = .ok read) : s.readAfter offset = .ok read := by
  rcases fault with _ | failure
  · rw [Store.read] at h
    rcases hread : s.readAfter offset with flaw | entries
    · simp [hread, Except.mapError] at h
    · simpa [hread, Except.mapError] using h
  · simp [Store.read] at h

/-- What is known of a reading of a table that does not fail. -/
theorem mapM_of_read {rows : Option (List LogRow)} {fault : Option LogFailure} {read : List Entry}
    (h : (table rows).read fault offset = .ok read) :
    ((rows.getD []).filter fun row => (offset : Int) < row.offset).mapM LogRow.entry? =
      .ok read := by
  have hread := readAfter_of_read h
  by_cases beyond : LogRow.maxOffset < offset
  · simp [readAfter, beyond] at hread
  · rcases rows with _ | rows
    · simp [readAfter, beyond] at hread
    · simpa only [readAfter, beyond, if_false, Option.getD_some] using hread

/-- A reading that does not fail gives the entries behind the offset. -/
theorem Ordered.read_eq (h : s.Ordered) {fault : Option LogFailure} {read : List Entry}
    (hread : s.read fault offset = .ok read) : read = s.behind offset := by
  rcases s with entries | rows
  · have contiguous : Contiguous entries := h
    rcases fault with _ | failure
    · have hdrop : entries.drop offset = read := Except.ok.inj hread
      rw [← hdrop, ← contiguous.filter_eq_drop]
      rfl
    · simp [Store.read] at hread
  · exact filter_of_mapM (mapM_of_read hread)

/-- A reading does not get past a row that is no entry. -/
theorem entry?_of_read {fault : Option LogFailure} {read : List Entry}
    (hread : s.read fault offset = .ok read) {row : LogRow} (hrow : row ∈ s.rows)
    (ahead : (offset : Int) < row.offset) : ∃ e, row.entry? = .ok e := by
  rcases s with entries | rows
  · simp [Store.rows] at hrow
  · have kept : row ∈ (rows.getD []).filter fun row => (offset : Int) < row.offset :=
      List.mem_filter.mpr ⟨hrow, decide_eq_true ahead⟩
    obtain ⟨e, -, he⟩ := exists_of_forall₂ (mapM_eq_ok_iff.mp (mapM_of_read hread)) kept
    exact ⟨e, he⟩

/-! ## Growing -/

/-- Whether a log has grown at its end. -/
structure Grows (s s' : Store) : Prop where
  entries : s.entries <+: s'.entries
  ordered : s.Ordered → s'.Ordered
  /-- New rows, whatever they hold, are ahead of all entries. -/
  ahead : s.Ordered → ∀ row ∈ s'.rows, row ∈ s.rows ∨ ∀ e ∈ s.entries, (e.offset : Int) < row.offset

/-- A log that stays as it is loses nothing. -/
theorem Grows.refl (s : Store) : s.Grows s where
  entries := List.prefix_rfl
  ordered := id
  ahead _ _ hrow := Or.inl hrow

/-- A table grows by a row that is ahead of all others. -/
theorem grows_table {rows : List LogRow} {row : LogRow}
    (ahead : Ordered (table (some rows)) → ∀ other ∈ rows, other.offset < row.offset) :
    Grows (table (some rows)) (table (some (rows ++ [row]))) := by
  refine ⟨?_, fun ordered => ?_, fun ordered other hother => ?_⟩
  · change _ <+: (rows ++ [row]).filterMap _
    rw [List.filterMap_append]
    exact List.prefix_append _ _
  · refine List.pairwise_append.mpr ⟨ordered, List.pairwise_singleton _ _, ?_⟩
    intro other hother last hlast
    rw [List.mem_singleton.mp hlast]
    exact ahead ordered other hother
  · refine (List.mem_append.mp hother).imp_right fun hnew e he => ?_
    obtain ⟨old, hold, hentry⟩ := List.mem_filterMap.mp he
    have hoffset := LogRow.offset_eq_of_read (LogRow.entry?_of_toOption hentry)
    have hlt := ahead ordered old hold
    rw [List.mem_singleton.mp hnew]
    omega

/-- Making the table that was missing adds no row to the log. -/
theorem grows_opened (s : Store) : s.Grows s.opened := by
  rcases s with entries | rows | rows
  · exact .refl _
  · exact ⟨List.prefix_rfl, id, fun _ _ hrow => Or.inl hrow⟩
  · exact .refl _

/-- A row that is not ahead of all others is not put in, so the order is kept either way. -/
theorem grows_insertRow (s : Store) (row : LogRow) : s.Grows (s.insertRow row) := by
  rcases s with entries | rows | rows
  · exact .refl _
  · exact .refl _
  · rw [insertRow]
    by_cases ahead : rows.all fun other => other.offset < row.offset
    · rw [if_pos ahead]
      refine grows_table fun _ other hother => ?_
      have hlt := List.all_eq_true.mp ahead other hother
      rwa [decide_eq_true_eq] at hlt
    · rw [if_neg ahead]
      exact .refl _

/-- The offset of a new row is ahead of all others. -/
theorem lt_nextOffset {rows : List LogRow}
    (h : rows.Pairwise fun a b => a.offset < b.offset) {row : LogRow} (hrow : row ∈ rows) :
    row.offset < LogRow.nextOffset rows := by
  rcases List.eq_nil_or_concat rows with rfl | ⟨front, last, rfl⟩
  · simp at hrow
  · rw [LogRow.nextOffset, List.concat_eq_append, List.getLast?_concat]
    change row.offset < last.offset + 1
    rw [List.concat_eq_append] at h hrow
    rcases List.mem_append.mp hrow with hfront | hlast
    · have hlt := (List.pairwise_append.mp h).2.2 row hfront last (List.mem_singleton_self last)
      omega
    · rw [List.mem_singleton.mp hlast]
      omega

/-- An append adds one row, or it fails and adds none. A table may have been made on the way. -/
theorem grows_append (s : Store) (now : Instant) (op : Op) : s.Grows (s.append now op).2 := by
  rcases s with entries | rows | rows
  · refine ⟨List.prefix_append _ _, fun contiguous => ?_, fun _ _ hrow => Or.inl hrow⟩
    change Contiguous (entries ++ [{ offset := nextOffset entries, op, appendedAt := now }])
    rw [Contiguous.nextOffset contiguous]
    exact Contiguous.append contiguous op now
  · exact .refl _
  · exact grows_table fun ordered other hother => lt_nextOffset ordered hother

/-- A fault keeps the append from happening at all. -/
theorem grows_write (s : Store) (fault : Option LogFailure) (now : Instant) (op : Op) :
    s.Grows (s.write fault now op).2 := by
  rcases fault with _ | failure
  · exact s.grows_append now op
  · exact .refl _

end Store

/-! ## Views -/

namespace Catalog

variable {c : Catalog} {s s' : Store}

/-- Whether a catalog is that of the entries up to the offset that it has applied. -/
def Views (c : Catalog) (s : Store) : Prop :=
  c = ofEntries (s.upTo c.applied)

/-- A catalog that has applied nothing shows the log up to the beginning. -/
theorem views_empty (s : Store) : empty.Views s := by
  have nothing : ∀ e ∈ s.upTo 0, e.offset ≤ empty.applied := by
    intro e he
    exact of_decide_eq_true (List.mem_filter.mp he).2
  exact (applyAll_of_le nothing).symm

/-- What has been applied last is an entry, if anything has been. -/
theorem Views.applied_eq_zero_or (h : c.Views s) :
    c.applied = 0 ∨ ∃ e ∈ s.entries, c.applied = e.offset := by
  rcases SchemaRegistry.applied_eq_zero_or (s.upTo c.applied) with zero | ⟨e, he, hoffset⟩
  · rw [← show c = ofEntries (s.upTo c.applied) from h] at zero
    exact Or.inl zero
  · rw [← show c = ofEntries (s.upTo c.applied) from h] at hoffset
    exact Or.inr ⟨e, (List.mem_filter.mp he).1, hoffset⟩

/-- A view that has come to the end of the log is the catalog of the whole log. -/
theorem Views.eq_of_endsBy (h : c.Views s) (ends : s.EndsBy c.applied) :
    c = ofEntries s.entries := by
  have whole : s.upTo c.applied = s.entries :=
    List.filter_eq_self.mpr fun e he => decide_eq_true (ends e he)
  calc c = ofEntries (s.upTo c.applied) := h
    _ = ofEntries s.entries := by rw [whole]

/-- A view stays one when the log grows. -/
theorem Views.mono (h : c.Views s) (grown : s.Grows s') : c.Views s' := by
  obtain ⟨more, hmore⟩ := grown.entries
  have again : c.applyAll (more.filter fun e => e.offset ≤ c.applied) = c :=
    applyAll_of_le fun e he => by simpa using (List.mem_filter.mp he).2
  rw [Views, Store.upTo, ← hmore, List.filter_append, ofEntries_append]
  change c = (ofEntries (s.upTo c.applied)).applyAll _
  rw [← show c = ofEntries (s.upTo c.applied) from h, again]

/-- A view that applies the next entry is one again. -/
theorem Views.apply_next (h : c.Views s) (ordered : s.Ordered) {e : Entry} {rest : List Entry}
    (next : e :: rest <+: s.behind c.applied) :
    (c.apply e).Views s ∧ (c.apply e).applied = e.offset ∧ rest <+: s.behind e.offset := by
  obtain ⟨more, hmore⟩ := next
  have hsplit := ordered.upTo_append_behind c.applied
  have hlater := ordered.ascending
  rw [← hsplit, ← hmore] at hlater
  have ahead : c.applied < e.offset := by
    have he : e ∈ s.behind c.applied := by simp [← hmore]
    simpa using (List.mem_filter.mp he).2
  have front : ∀ d ∈ s.upTo c.applied, d.offset ≤ e.offset := by
    intro d hd
    have hle : d.offset ≤ c.applied := by simpa using (List.mem_filter.mp hd).2
    omega
  have back : ∀ d ∈ rest ++ more, e.offset < d.offset :=
    (List.pairwise_cons.mp (List.pairwise_append.mp hlater).2.1).1
  have happlied : (c.apply e).applied = e.offset := by
    rw [applied_apply]
    omega
  -- The entry is the first behind the place of the catalog, so moving the place behind it takes in
  -- this one entry and no other.
  have hupTo : s.upTo e.offset = s.upTo c.applied ++ [e] := by
    have hfront : (s.upTo c.applied).filter (fun d => d.offset ≤ e.offset) = s.upTo c.applied :=
      List.filter_eq_self.mpr fun d hd => decide_eq_true (front d hd)
    have hback : (rest ++ more).filter (fun d => d.offset ≤ e.offset) = [] :=
      List.filter_eq_nil_iff.mpr fun d hd => by simpa using back d hd
    rw [Store.upTo, ← hsplit, ← hmore, List.filter_append, hfront]
    simp [hback]
  have hbehind : s.behind e.offset = rest ++ more := by
    have hfront : (s.upTo c.applied).filter (fun d => e.offset < d.offset) = [] :=
      List.filter_eq_nil_iff.mpr fun d hd => by simpa using front d hd
    have hback : (rest ++ more).filter (fun d => e.offset < d.offset) = rest ++ more :=
      List.filter_eq_self.mpr fun d hd => decide_eq_true (back d hd)
    rw [Store.behind, ← hsplit, ← hmore, List.filter_append, hfront]
    simp [hback]
  refine ⟨?_, happlied, ?_⟩
  · rw [Views, happlied, hupTo, ofEntries_append, ← show c = ofEntries (s.upTo c.applied) from h]
    rfl
  · rw [hbehind]
    exact List.prefix_append _ _

/-- The offset of the last of some entries, or another if there is none. -/
def lastOffset (entries : List Entry) (start : Nat) : Nat :=
  (entries.getLast?.map (·.offset)).getD start

/-- A reading gets to the same place before and after its first entry has been applied. -/
theorem lastOffset_cons (e : Entry) (rest : List Entry) (start : Nat) :
    lastOffset (e :: rest) start = lastOffset rest e.offset := by
  rcases rest with _ | ⟨d, rest⟩
  · rfl
  · simp [lastOffset, List.getLast?_cons]

/-- A view that applies the next entries is one again, and has reached the last of them. -/
theorem Views.applyAll_prefix (h : c.Views s) (ordered : s.Ordered) {read : List Entry}
    (next : read <+: s.behind c.applied) :
    (c.applyAll read).Views s ∧ (c.applyAll read).applied = lastOffset read c.applied := by
  induction read generalizing c with
  | nil => exact ⟨h, rfl⟩
  | cons e rest ih =>
    obtain ⟨views, happlied, hrest⟩ := h.apply_next ordered next
    rw [← happlied] at hrest
    obtain ⟨hviews, hlast⟩ := ih views hrest
    rw [lastOffset_cons, ← happlied]
    exact ⟨hviews, hlast⟩

/-- The last offset of a reading is the greatest of the log. -/
theorem lastOffset_behind (ordered : s.Ordered) (start : Nat) :
    s.EndsBy (lastOffset (s.behind start) start) ∧
      start ≤ lastOffset (s.behind start) start ∧
      (lastOffset (s.behind start) start = start ∨
        ∃ e ∈ s.entries, e.offset = lastOffset (s.behind start) start) := by
  have hsplit := ordered.upTo_append_behind start
  have front : ∀ e ∈ s.upTo start, e.offset ≤ start := by
    intro e he
    simpa using (List.mem_filter.mp he).2
  -- The last offset behind the place is the last of the log, unless there is none behind it.
  rcases List.eq_nil_or_concat (s.behind start) with hnone | ⟨others, last, hlast⟩
  · rw [hnone, List.append_nil] at hsplit
    rw [hnone]
    refine ⟨fun e he => ?_, Nat.le_refl _, Or.inl rfl⟩
    rw [← hsplit] at he
    exact front e he
  · have hbehind : s.behind start = others ++ [last] := by rw [hlast, List.concat_eq_append]
    have hvalue : lastOffset (s.behind start) start = last.offset := by
      rw [hbehind, lastOffset, List.getLast?_concat]
      rfl
    have hlater := ordered.ascending
    rw [← hsplit, hbehind, ← List.append_assoc] at hlater
    have before := (List.pairwise_append.mp hlater).2.2
    have hmem : last ∈ s.behind start := by simp [hbehind]
    have ahead : start < last.offset := by simpa using (List.mem_filter.mp hmem).2
    rw [hvalue]
    refine ⟨fun e he => ?_, by omega, Or.inr ⟨last, (List.mem_filter.mp hmem).1, rfl⟩⟩
    rw [← hsplit, hbehind, ← List.append_assoc] at he
    rcases List.mem_append.mp he with hfront | hend
    · exact (before e hfront last (List.mem_singleton_self last)).le
    · rw [List.mem_singleton.mp hend]

end Catalog

end SchemaRegistry
