import Mathlib.Data.List.Forall2
import SchemaRegistry.Node.Write
import SchemaRegistry.Proofs.Log.History
/-!
# Stores that hold a log

Whatever a log is kept in, a catalog of its first entries that reads on is given the others: this is
`Store.Holds`, and all that deciding at the end of the log needs of a store. In memory it rests on
offsets that count from one, since entries are found by their place. In a table offsets may have
gaps: what a catalog has applied is then told by its last entry, and the rest by offsets that
ascend.
-/

set_option autoImplicit false

namespace SchemaRegistry

/-- Whether a catalog of any number of the log's entries is given all others when it reads on. -/
def Store.Holds (s : Store) (log : List Entry) : Prop :=
  ∀ k, s.readAfter (Catalog.ofEntries (log.take k)).applied = .ok (log.drop k)

/-- A catalog of any of the entries is brought to the end of a log that is held. -/
theorem Store.Holds.sync {s : Store} {log : List Entry} (h : s.Holds log) (k : Nat) :
    (Catalog.ofEntries (log.take k)).sync s none =
      (.ok (Catalog.ofEntries log).applied, Catalog.ofEntries log) := by
  have hfold := Catalog.ofEntries_append (log.take k) (log.drop k)
  rw [List.take_append_drop] at hfold
  rw [Catalog.sync, Store.read, h k, hfold]
  rfl

/-- A log in memory is held. -/
theorem Contiguous.holds_memory {log : List Entry} (h : Contiguous log) :
    (Store.memory log).Holds log := by
  intro k
  rw [(h.take k).applied, Store.readAfter, List.length_take]
  rcases Nat.le_total k log.length with hk | hk
  · rw [Nat.min_eq_left hk]
  · rw [Nat.min_eq_right hk, List.drop_length, List.drop_of_length_le hk]

/-! ## Tables -/

/-- Whether the offsets ascend from above zero. -/
structure Ascending (log : List Entry) : Prop where
  positive : ∀ e ∈ log, 0 < e.offset
  ordered : log.Pairwise fun d e => d.offset < e.offset

/-- The catalog of the entries in front has applied just them. -/
theorem Ascending.applied_between {past rest : List Entry} (h : Ascending (past ++ rest)) :
    (∀ e ∈ past, e.offset ≤ (Catalog.ofEntries past).applied) ∧
      ∀ e ∈ rest, (Catalog.ofEntries past).applied < e.offset := by
  induction past using List.reverseRecOn generalizing rest with
  | nil => exact ⟨fun e he => absurd he List.not_mem_nil, fun e he => h.positive e he⟩
  | append_singleton past d ih =>
    rw [List.append_assoc] at h
    obtain ⟨hpast, hrest⟩ := ih h
    have ahead := hrest d (List.mem_append_left _ (List.mem_singleton_self d))
    have hlast : (Catalog.ofEntries (past ++ [d])).applied = d.offset := by
      rw [Catalog.ofEntries_append, Catalog.applyAll_singleton ahead]
    rw [hlast]
    refine ⟨fun e he => ?_, fun e he => ?_⟩
    · rcases List.mem_append.mp he with he | he
      · exact ((hpast e he).trans_lt ahead).le
      · rw [List.mem_singleton.mp he]
    · have hpairs := (List.pairwise_append.mp h.ordered).2.1
      exact (List.pairwise_cons.mp hpairs).1 e he

theorem mapM_eq_ok_iff {α β ε : Type} {f : α → Except ε β} {as : List α} {bs : List β} :
    as.mapM f = .ok bs ↔ List.Forall₂ (fun a b => f a = .ok b) as bs := by
  induction as generalizing bs with
  | nil =>
    rw [List.forall₂_nil_left_iff]
    exact ⟨fun h => by cases h; rfl, fun h => by rw [h]; rfl⟩
  | cons a as ih =>
    rw [List.mapM_cons, List.forall₂_cons_left_iff]
    constructor
    · intro h
      cases ha : f a with
      | error e =>
        rw [ha] at h
        cases h
      | ok b =>
        cases has : as.mapM f with
        | error e =>
          rw [ha, has] at h
          cases h
        | ok bs' =>
          rw [ha, has] at h
          cases h
          exact ⟨b, bs', rfl, ih.mp has, rfl⟩
    · rintro ⟨b, bs', hb, hbs, rfl⟩
      rw [hb, ih.mpr hbs]
      rfl

/-- What has been applied last is an entry, if anything has been applied. -/
theorem applied_eq_zero_or (entries : List Entry) :
    (Catalog.ofEntries entries).applied = 0 ∨
      ∃ e ∈ entries, (Catalog.ofEntries entries).applied = e.offset := by
  induction entries using List.reverseRecOn with
  | nil => exact Or.inl rfl
  | append_singleton entries e ih =>
    rw [Catalog.ofEntries_append]
    by_cases ahead : (Catalog.ofEntries entries).applied < e.offset
    · rw [Catalog.applyAll_singleton ahead]
      exact Or.inr ⟨e, List.mem_append_right _ (List.mem_singleton_self e), rfl⟩
    · have hsame : (Catalog.ofEntries entries).applyAll [e] = Catalog.ofEntries entries := by
        rw [Catalog.applyAll, List.foldl_cons, List.foldl_nil, Catalog.apply, Catalog.applyAt,
          if_pos (Nat.not_lt.mp ahead)]
      rw [hsame]
      rcases ih with hzero | ⟨d, hd, hoffset⟩
      · exact Or.inl hzero
      · exact Or.inr ⟨d, List.mem_append_left _ hd, hoffset⟩

theorem exists_of_forall₂ {α β : Type} {R : α → β → Prop} {as : List α} {bs : List β}
    (h : List.Forall₂ R as bs) {a : α} (ha : a ∈ as) : ∃ b ∈ bs, R a b := by
  induction h with
  | nil => cases ha
  | cons hab _ ih =>
    rcases List.mem_cons.mp ha with rfl | ha
    · exact ⟨_, List.mem_cons_self, hab⟩
    · obtain ⟨b, hb, hR⟩ := ih ha
      exact ⟨b, List.mem_cons_of_mem _ hb, hR⟩

theorem LogRow.offset_eq_of_read {row : LogRow} {e : Entry} (h : row.entry? = .ok e) :
    row.offset = e.offset := by
  unfold entry? at h
  split at h
  · cases h
  · rename_i hpos
    split at h
    · cases h
    · split at h
      · cases h
      · cases h
        exact (Int.toNat_of_nonneg (Int.not_lt.mp hpos)).symm

end SchemaRegistry
