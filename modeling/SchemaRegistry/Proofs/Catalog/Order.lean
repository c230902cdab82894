import Mathlib.Data.List.Nodup
import Mathlib.Data.Prod.Lex
import Mathlib.Data.String.Basic
import SchemaRegistry.Proofs.Catalog.Rows
/-!
# The rows of a catalog are in order

Inserting looks at one row after the other and stops at the first that is not in front, so it
replaces a row of its own key only if the rows are in order. They always are: `Catalog.Sorted` holds
of the empty catalog and every operation keeps it, whatever the log says. So no two rows share a
key, and the versions of a subject ascend.

The order of rows is that of a product taken place by place. Saying so once gives transitivity and
trichotomy, and the cases of the definitions need not be gone through again.
-/

set_option autoImplicit false

namespace SchemaRegistry

/-! ## The order of subjects and of rows -/

/-- The place of a subject in listings. -/
def Subject.place (s : Subject) : String ×ₗ (String ×ₗ String) :=
  toLex (s.tenant, toLex (s.context, s.localName))

/-- Subjects come in the order of their tenants, then of their contexts, then of their local names.
-/
theorem Subject.lt_iff {a b : Subject} : a < b ↔ a.place < b.place := by
  rw [place, place, Prod.Lex.toLex_lt_toLex, Prod.Lex.toLex_lt_toLex]
  rfl

/-- The three parts are the whole subject, so no two subjects share a place. -/
theorem Subject.place_injective {a b : Subject} (h : a.place = b.place) : a = b := by
  obtain ⟨_, _, _⟩ := a
  obtain ⟨_, _, _⟩ := b
  simp only [place, EmbeddingLike.apply_eq_iff_eq, Prod.mk.injEq] at h
  rw [h.1, h.2.1, h.2.2]

/-- The place of a version in a catalog. -/
def Version.place (v : Version) : (String ×ₗ (String ×ₗ String)) ×ₗ Nat :=
  toLex (v.subject.place, v.number.toNat)

/-- A place is a key, seen as something that can be compared. -/
theorem Version.place_eq_iff {v w : Version} : v.place = w.place ↔ v.key = w.key := by
  rw [place, place, key_eq_iff, EmbeddingLike.apply_eq_iff_eq, Prod.mk.injEq, UInt32.toNat_inj]
  exact and_congr_left' ⟨Subject.place_injective, congrArg Subject.place⟩

namespace Row

/-- The comparison of rows is that of their places. -/
theorem isBefore_iff {a b : Row} :
    a.isBefore b = true ↔ a.version.place < b.version.place := by
  rw [isBefore, Bool.or_eq_true, Bool.and_eq_true, decide_eq_true_eq, decide_eq_true_eq,
    beq_iff_eq, Subject.lt_iff, UInt32.lt_iff_toNat_lt, Version.place, Version.place,
    Prod.Lex.toLex_lt_toLex]
  exact or_congr_right (and_congr_left' ⟨congrArg Subject.place, Subject.place_injective⟩)

/-- So two rows are in order, or they have one key, and there is no fourth case. -/
theorem sameKey_iff_place {a b : Row} :
    a.sameKey b = true ↔ a.version.place = b.version.place := by
  rw [sameKey_iff, Version.place_eq_iff]

/-- Rows in order, none at the place of another. -/
abbrev InOrder (rows : List Row) : Prop :=
  rows.Pairwise fun a b => a.version.place < b.version.place

/-- **Rows stay in order when one is put in.** It goes in front of the first that is not before it,
and takes the place of that one if their keys are the same. -/
theorem inOrder_insert {row : Row} {rows : List Row} (h : InOrder rows) :
    InOrder (row.insert rows) := by
  induction rows with
  | nil => exact List.pairwise_singleton _ _
  | cons first rest ih =>
    obtain ⟨hfirst, hrest⟩ := List.pairwise_cons.mp h
    rw [insert]
    split
    · rename_i before
      rw [isBefore_iff] at before
      refine List.pairwise_cons.mpr ⟨fun other hother => ?_, h⟩
      rcases List.mem_cons.mp hother with rfl | hother
      · exact before
      · exact before.trans (hfirst other hother)
    · split
      · rename_i same
        rw [sameKey_iff_place] at same
        exact List.pairwise_cons.mpr ⟨fun other hother => same ▸ hfirst other hother, hrest⟩
      · rename_i before same
        rw [isBefore_iff] at before
        rw [sameKey_iff_place] at same
        refine List.pairwise_cons.mpr ⟨fun other hother => ?_, ih hrest⟩
        -- What is neither in front of the first row nor at its place is behind it.
        rcases eq_or_mem_of_mem_insert hother with rfl | hother
        · exact lt_of_le_of_ne (not_lt.mp before) (Ne.symm same)
        · exact hfirst other hother

end Row

namespace Catalog

/-- Whether the rows are in the order of listings, each key once. -/
def Sorted (c : Catalog) : Prop :=
  Row.InOrder c.rows

theorem sorted_empty : empty.Sorted :=
  List.Pairwise.nil

/-- A registration puts its row in, and deletions mark rows or take them out, which moves none of
the others. -/
theorem sorted_perform {c : Catalog} (h : c.Sorted) (op : Op) : (c.perform op).Sorted := by
  cases op with
  | register v => exact Row.inOrder_insert h
  | softDelete subject numbers =>
    refine List.pairwise_map.mpr (List.Pairwise.imp (fun {a b} hab => ?_) h)
    -- A mark of deletion moves no row.
    split <;> split <;> exact hab
  | permanentDelete subject numbers => exact List.Pairwise.filter _ h

theorem sorted_applyAll {c : Catalog} (h : c.Sorted) (entries : List Entry) :
    (c.applyAll entries).Sorted := by
  induction entries generalizing c with
  | nil => exact h
  | cons entry rest ih =>
    refine ih ?_
    rw [apply, applyAt]
    split
    · exact h
    · exact sorted_perform h entry.op

/-- The rows of any log are in order, whatever its operations are and in whatever order they come.
-/
theorem sorted_ofEntries (entries : List Entry) : (ofEntries entries).Sorted :=
  sorted_applyAll sorted_empty entries

/-- A key has one row. -/
theorem Sorted.eq_of_key {c : Catalog} (h : c.Sorted) {a b : Row} (ha : a ∈ c.rows)
    (hb : b ∈ c.rows) (hkey : a.version.key = b.version.key) : a = b := by
  have places : (c.rows.map fun row => row.version.place).Nodup :=
    List.pairwise_map.mpr (List.Pairwise.imp (fun {a b} hab => ne_of_lt hab) h)
  exact List.inj_on_of_nodup_map places ha hb (Version.place_eq_iff.mpr hkey)

end Catalog

end SchemaRegistry
