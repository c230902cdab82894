import Mathlib.Data.String.Basic
import SchemaRegistry.Json.Canonical
/-!
# The order of members

A sorted tree has the members of every object in the order of their names, each name once. Leaving
members out keeps that order, and so it does not matter whether a tree is sorted first or members
are left out first (`sorted_without`).
-/

set_option autoImplicit false

namespace SchemaRegistry.Json

/-- Whether the members stand in the order of their names, each name once. -/
def Ascending (members : List (String × Json)) : Prop :=
  members.Pairwise fun m n => m.1 < n.1

theorem eq_or_mem_of_mem_insertMember {key : String} {v : Json} {m : String × Json} :
    ∀ {members : List (String × Json)}, m ∈ insertMember key v members →
      m = (key, v) ∨ m ∈ members
  | [], h => by
    rw [insertMember, List.mem_singleton] at h
    exact Or.inl h
  | (k, w) :: members, h => by
    rw [insertMember] at h
    split at h
    · rcases List.mem_cons.mp h with rfl | hm
      · exact Or.inl rfl
      · exact Or.inr hm
    · split at h
      · exact Or.inr h
      · rcases List.mem_cons.mp h with rfl | hm
        · exact Or.inr List.mem_cons_self
        · exact (eq_or_mem_of_mem_insertMember hm).imp_right (List.mem_cons_of_mem _)

/-- A member goes in front of the first with a greater name, and is passed over where there is one
of its own. -/
theorem Ascending.insertMember (key : String) (v : Json) :
    ∀ {members : List (String × Json)}, Ascending members → Ascending (insertMember key v members)
  | [], _ => List.pairwise_singleton _ _
  | (k, w) :: members, h => by
    obtain ⟨below, others⟩ := List.pairwise_cons.mp h
    rw [Json.insertMember]
    split
    · rename_i before
      refine List.pairwise_cons.mpr ⟨fun m hm => ?_, h⟩
      rcases List.mem_cons.mp hm with rfl | hm
      · exact before
      · exact before.trans (below m hm)
    · split
      · exact h
      · rename_i notBefore differs
        refine List.pairwise_cons.mpr ⟨fun m hm => ?_, Ascending.insertMember key v others⟩
        rcases eq_or_mem_of_mem_insertMember hm with rfl | hm
        · exact lt_of_le_of_ne (le_of_not_gt notBefore) (Ne.symm differs)
        · exact below m hm

/-- Members are put in one after the other, so the order is kept from the empty object on. -/
theorem ascending_sortedMembers (members : List (String × Json)) :
    Ascending (sortedMembers members) := by
  induction members with
  | nil => exact .nil
  | cons member members ih => exact ih.insertMember member.1 member.2.sorted

/-! ## Leaving members out -/

section Without

variable {names : List String} {key : String}

/-- What is left of an object are some of its members, each with its own value cut back as well. -/
theorem exists_of_mem_membersWithout {m : String × Json} :
    ∀ {members : List (String × Json)}, m ∈ membersWithout names members →
      ∃ n ∈ members, m = (n.1, n.2.without names)
  | [], h => by cases h
  | (k, w) :: members, h => by
    rw [membersWithout] at h
    split at h
    · obtain ⟨n, hn, same⟩ := exists_of_mem_membersWithout h
      exact ⟨n, List.mem_cons_of_mem _ hn, same⟩
    · rcases List.mem_cons.mp h with rfl | hm
      · exact ⟨(k, w), List.mem_cons_self, rfl⟩
      · obtain ⟨n, hn, same⟩ := exists_of_mem_membersWithout hm
        exact ⟨n, List.mem_cons_of_mem _ hn, same⟩

theorem insertMember_of_before {v : Json} {members : List (String × Json)}
    (before : ∀ m ∈ members, key < m.1) : insertMember key v members = (key, v) :: members := by
  cases members with
  | nil => rfl
  | cons m members => rw [insertMember, if_pos (before m List.mem_cons_self)]

/-- A member that is left out can as well not be put in. -/
theorem membersWithout_insertMember_of_contains (hkey : names.contains key = true) (v : Json) :
    ∀ members : List (String × Json),
      membersWithout names (insertMember key v members) = membersWithout names members
  | [] => by simp only [insertMember, membersWithout, hkey, if_true]
  | (k, w) :: members => by
    rw [insertMember]
    split
    · rw [membersWithout, if_pos hkey]
    · split
      · rfl
      · rw [membersWithout, membersWithout, membersWithout_insertMember_of_contains hkey v members]

/-- A member that is not left out may be put in before or after the others are. Where it goes
depends on names, and leaving out changes none of these. -/
theorem membersWithout_insertMember (hkey : ¬ names.contains key = true) (v : Json) :
    ∀ {members : List (String × Json)}, Ascending members →
      membersWithout names (insertMember key v members) =
        insertMember key (v.without names) (membersWithout names members)
  | [], _ => by
    simp only [insertMember, membersWithout]
    exact if_neg hkey
  | (k, w) :: members, h => by
    obtain ⟨below, others⟩ := List.pairwise_cons.mp h
    rw [insertMember]
    split
    · rename_i before
      -- The member goes in front of all, so also of those that stay.
      rw [membersWithout, if_neg hkey, insertMember_of_before]
      intro m hm
      obtain ⟨n, hn, rfl⟩ := exists_of_mem_membersWithout hm
      rcases List.mem_cons.mp hn with rfl | hn
      · exact before
      · exact before.trans (below n hn)
    · rename_i notBefore
      split
      · rename_i same
        subst same
        rw [membersWithout, if_neg hkey, insertMember, if_neg notBefore, if_pos rfl]
      · rename_i differs
        rw [membersWithout, membersWithout, membersWithout_insertMember hkey v others]
        split
        · rfl
        · rw [insertMember, if_neg notBefore, if_neg differs]

end Without

mutual

/-- Sorting and leaving members out can change places. -/
theorem sorted_without (names : List String) : ∀ v : Json,
    (v.without names).sorted = v.sorted.without names
  | .null => rfl
  | .bool _ => rfl
  | .number _ => rfl
  | .text _ => rfl
  | .array items => by simp only [sorted, without, sortedItems_itemsWithout names items]
  | .object members => by simp only [sorted, without, sortedMembers_membersWithout names members]

theorem sortedItems_itemsWithout (names : List String) : ∀ items : List Json,
    sortedItems (itemsWithout names items) = itemsWithout names (sortedItems items)
  | [] => rfl
  | v :: items => by
    simp only [sortedItems, itemsWithout, sorted_without names v,
      sortedItems_itemsWithout names items]

/-- The induction puts the members in from behind, and a member that is left out is not put in at
all. -/
theorem sortedMembers_membersWithout (names : List String) : ∀ members : List (String × Json),
    sortedMembers (membersWithout names members) = membersWithout names (sortedMembers members)
  | [] => rfl
  | (key, v) :: members => by
    rw [sortedMembers, membersWithout]
    split
    · rename_i hkey
      rw [membersWithout_insertMember_of_contains hkey,
        sortedMembers_membersWithout names members]
    · rename_i hkey
      rw [sortedMembers, sorted_without names v, sortedMembers_membersWithout names members,
        membersWithout_insertMember hkey _ (ascending_sortedMembers members)]

end

end SchemaRegistry.Json
