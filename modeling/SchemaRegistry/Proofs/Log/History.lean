import Mathlib.Data.List.Induction
import SchemaRegistry.Log.Store
import SchemaRegistry.Proofs.Catalog.Decision
import SchemaRegistry.Proofs.Catalog.Order
/-!
# Histories

A history is a log in which every entry was decided on the catalog of the entries in front of it.
Whatever writes a registry is asked for, in whatever order and at whatever nodes, its log is a
history as long as no two writes overlap. So what can be said of all histories is said here, by
induction on the entries, and arguments about nodes and clusters only have to show that the log is
one.

Two kinds of facts are proved. One is about numbers: the registrations of a subject are numbered
without gaps, so a number belongs to one registration and to no other, ever. The other is about
catalogs of prefixes of one log, which is what the nodes of a registry hold: between a shorter and a
longer prefix a row whose number was given out already can only be marked or lost.
-/

set_option autoImplicit false

namespace SchemaRegistry

/-! ## Catalogs that follow a log -/

namespace Catalog

/-- A catalog of a log is one of its first part brought up to date with the rest. -/
theorem ofEntries_append (past more : List Entry) :
    ofEntries (past ++ more) = (ofEntries past).applyAll more := by
  rw [ofEntries, ofEntries, applyAll, applyAll, applyAll, List.foldl_append]

/-- An entry that lies ahead is performed. -/
theorem applyAll_singleton {c : Catalog} {e : Entry} (h : c.applied < e.offset) :
    c.applyAll [e] = { c.perform e.op with applied := e.offset } := by
  rw [applyAll, List.foldl_cons, List.foldl_nil, apply, applyAt, if_neg (by omega)]

/-- Whether the catalog is that of the log's first entries, as many as it has applied. -/
structure Follows (c : Catalog) (log : List Entry) : Prop where
  applied_le : c.applied ≤ log.length
  eq_ofEntries : c = ofEntries (log.take c.applied)

theorem follows_empty (log : List Entry) : empty.Follows log where
  applied_le := Nat.zero_le _
  eq_ofEntries := rfl

/-- A catalog falls behind when the log grows, but never follows it less. -/
theorem Follows.mono {c : Catalog} {log log' : List Entry} (h : c.Follows log)
    (grown : log <+: log') : c.Follows log' := by
  obtain ⟨more, rfl⟩ := grown
  refine ⟨?_, ?_⟩
  · rw [List.length_append]
    exact Nat.le_add_right_of_le h.applied_le
  · rw [List.take_append_of_le_length h.applied_le]
    exact h.eq_ofEntries

/-- Applying what a catalog has not applied brings it to the end of the log. -/
theorem Follows.applyAll_drop {c : Catalog} {log : List Entry} (h : c.Follows log) :
    c.applyAll (log.drop c.applied) = ofEntries log := by
  have hsplit := ofEntries_append (log.take c.applied) (log.drop c.applied)
  rw [List.take_append_drop, ← h.eq_ofEntries] at hsplit
  exact hsplit.symm

/-- A catalog behind which nothing is left to read is that of the whole log. -/
theorem Follows.eq_of_readAfter {c : Catalog} {log : List Entry} (h : c.Follows log)
    (nothing : (Store.memory log).readAfter c.applied = .ok []) : c = ofEntries log := by
  have behind : log.drop c.applied = [] := Except.ok.inj nothing
  have all := List.take_of_length_le (List.drop_eq_nil_iff.mp behind)
  rw [← all]
  exact h.eq_ofEntries

end Catalog

/-! ## Offsets that count -/

/-- Whether the offsets are the places of the entries, from one on. -/
def Contiguous (log : List Entry) : Prop :=
  ∀ k e, log[k]? = some e → e.offset = k + 1

namespace Contiguous

variable {log : List Entry}

/-- The first entries of a log are counted from one as well. -/
theorem take (h : Contiguous log) (k : Nat) : Contiguous (log.take k) := by
  intro j e he
  rw [List.getElem?_take] at he
  split at he
  · exact h j e he
  · cases he

theorem of_concat {e : Entry} (h : Contiguous (log ++ [e])) :
    Contiguous log ∧ e.offset = log.length + 1 := by
  refine ⟨fun k d hd => h k d ?_, h log.length e ?_⟩
  · rw [List.getElem?_append_left (List.getElem?_eq_some_iff.mp hd).1, hd]
  · rw [List.getElem?_append_right (Nat.le_refl _), Nat.sub_self]
    rfl

/-- The catalog of such a log has applied as many entries as there are. -/
theorem applied (h : Contiguous log) : (Catalog.ofEntries log).applied = log.length := by
  induction log using List.reverseRecOn with
  | nil => rfl
  | append_singleton log e ih =>
    obtain ⟨hlog, hoffset⟩ := h.of_concat
    have ahead : (Catalog.ofEntries log).applied < e.offset := by
      rw [ih hlog, hoffset]
      exact Nat.lt_succ_self _
    rw [Catalog.ofEntries_append, Catalog.applyAll_singleton ahead, hoffset, List.length_append,
      List.length_singleton]

/-- The catalog of a log follows it to the end. -/
theorem follows_ofEntries (h : Contiguous log) : (Catalog.ofEntries log).Follows log where
  applied_le := h.applied.le
  eq_ofEntries := by rw [h.applied, List.take_length]

/-- A store in memory gives the next entry the next offset. -/
theorem nextOffset (h : Contiguous log) : Store.nextOffset log = log.length + 1 := by
  cases log using List.reverseRecOn with
  | nil => rfl
  | append_singleton log e =>
    rw [Store.nextOffset, List.getLast?_concat, List.length_append, List.length_singleton]
    exact congrArg (· + 1) h.of_concat.2

end Contiguous

/-- A catalog that applies the next entry still follows. -/
theorem Catalog.Follows.apply_next {c : Catalog} {log : List Entry} (h : c.Follows log)
    (hlog : Contiguous log) {entry : Entry} {rest : List Entry}
    (next : entry :: rest <+: log.drop c.applied) :
    (c.apply entry).Follows log ∧ (c.apply entry).applied = c.applied + 1 := by
  obtain ⟨more, hmore⟩ := next
  have hentry : log[c.applied]? = some entry := by
    rw [← Nat.add_zero c.applied, ← List.getElem?_drop, ← hmore]
    rfl
  have hlt : c.applied < log.length := (List.getElem?_eq_some_iff.mp hentry).1
  have hoffset : entry.offset = c.applied + 1 := hlog _ _ hentry
  have hsingle : c.apply entry = c.applyAll [entry] := rfl
  have happlied : (c.apply entry).applied = c.applied + 1 := by
    rw [hsingle, applyAll_singleton (by omega), hoffset]
  refine ⟨⟨by omega, ?_⟩, happlied⟩
  rw [happlied, List.take_add_one, hentry, Option.toList_some, ofEntries_append,
    ← h.eq_ofEntries, hsingle]

/-- The entry that an operation becomes at the end of a log. -/
def Entry.next (log : List Entry) (op : Op) (now : Instant) : Entry :=
  { offset := log.length + 1, op, appendedAt := now }

theorem Contiguous.append {log : List Entry} (h : Contiguous log) (op : Op) (now : Instant) :
    Contiguous (log ++ [Entry.next log op now]) := by
  intro k e he
  rcases Nat.lt_or_ge k log.length with hk | hk
  · rw [List.getElem?_append_left hk] at he
    exact h k e he
  · rw [List.getElem?_append_right hk] at he
    have hlast : k - log.length < 1 := (List.getElem?_eq_some_iff.mp he).1
    obtain rfl : k = log.length := by omega
    rw [Nat.sub_self] at he
    cases he
    rfl

/-! ## Histories -/

/-- The logs of which every entry was decided on the entries in front of it. -/
inductive History : List Entry → Prop where
  | empty : History []
  | append {log : List Entry} {op : Op} (past : History log)
      (decided : (Catalog.ofEntries log).Decides op) (now : Instant) :
      History (log ++ [Entry.next log op now])

namespace History

variable {log : List Entry}

/-- Every entry of a history was appended with the offset that was next. -/
theorem contiguous (h : History log) : Contiguous log := by
  induction h with
  | empty => exact fun k e he => nomatch he
  | append past decided now ih => exact ih.append _ now

theorem applied (h : History log) : (Catalog.ofEntries log).applied = log.length :=
  h.contiguous.applied

/-- The catalog after one more entry. -/
theorem ofEntries_next (h : History log) (op : Op) (now : Instant) :
    Catalog.ofEntries (log ++ [Entry.next log op now]) =
      { (Catalog.ofEntries log).perform op with applied := log.length + 1 } := by
  rw [Catalog.ofEntries_append,
    Catalog.applyAll_singleton (h.applied ▸ Nat.lt_succ_self log.length)]
  rfl

theorem follows_ofEntries (h : History log) : (Catalog.ofEntries log).Follows log :=
  h.contiguous.follows_ofEntries

/-- The end of a history is taken off. -/
theorem of_concat {e : Entry} (h : History (log ++ [e])) :
    History log ∧ (Catalog.ofEntries log).Decides e.op ∧ e = Entry.next log e.op e.appendedAt := by
  generalize hlong : log ++ [e] = long at h
  cases h with
  | empty => exact absurd hlong (List.append_ne_nil_of_right_ne_nil _ (List.cons_ne_nil _ _))
  | append past decided now =>
    obtain ⟨rfl, hlast⟩ := List.append_inj' hlong rfl
    cases hlast
    exact ⟨past, decided, rfl⟩

/-- The first entries of a history are a history, decided one after the other on those in front of
them. -/
theorem take (h : History log) (k : Nat) : History (log.take k) := by
  induction h with
  | empty =>
    rw [List.take_nil]
    exact .empty
  | append past decided now ih =>
    rename_i log op
    by_cases hk : k ≤ log.length
    · rw [List.take_append_of_le_length hk]
      exact ih
    · rw [List.take_of_length_le]
      · exact .append past decided now
      · rw [List.length_append, List.length_singleton]
        omega

/-- What is known of the entry at a place. -/
theorem of_getElem? (h : History log) {k : Nat} {e : Entry} (he : log[k]? = some e) :
    (Catalog.ofEntries (log.take k)).Decides e.op ∧ e.offset = k + 1 ∧
      Catalog.ofEntries (log.take (k + 1)) =
        { (Catalog.ofEntries (log.take k)).perform e.op with applied := k + 1 } := by
  obtain ⟨hk, rfl⟩ := List.getElem?_eq_some_iff.mp he
  have hlength : (log.take k).length = k := List.length_take_of_le hk.le
  have htake : log.take (k + 1) = log.take k ++ [log[k]] := List.take_succ_eq_append_getElem hk
  obtain ⟨past, decided, hnext⟩ := of_concat (htake ▸ h.take (k + 1))
  refine ⟨decided, ?_, ?_⟩
  · rw [hnext, Entry.next, hlength]
  · have hfold := past.ofEntries_next log[k].op log[k].appendedAt
    rw [← hnext, ← htake, hlength] at hfold
    exact hfold

end History

end SchemaRegistry
