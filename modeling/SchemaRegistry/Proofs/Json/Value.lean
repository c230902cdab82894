import Mathlib.Data.List.Sort
import SchemaRegistry.Proofs.Json.Sorted
/-!
# What a document says

A tree keeps its members as they were written. What it says is a `Json.Value`: an object there is a
function from names, so the order of members is gone, and of two members of one name the last is
left. Sorting a tree does not change what it says (`value_sorted`), leaving members out of the tree
leaves them out of what it says (`value_without`), and the sorted tree says nothing else: trees that
say the same are sorted the same (`sorted_eq_iff`).
-/

set_option autoImplicit false

namespace SchemaRegistry.Json

/-- What a document says. -/
inductive Value where
  | null
  | bool (b : Bool)
  | number (n : Number)
  | text (s : String)
  | array (items : List Value)
  | object (members : String → Option Value)

mutual

/-- A value without the members of those names, in every object of it. -/
def Value.without (names : List String) : Value → Value
  | .array items => .array (Value.itemsWithout names items)
  | .object members => .object fun name =>
    if names.contains name then none else Value.memberWithout names (members name)
  | v => v

def Value.itemsWithout (names : List String) : List Value → List Value
  | [] => []
  | v :: items => v.without names :: Value.itemsWithout names items

def Value.memberWithout (names : List String) : Option Value → Option Value
  | none => none
  | some v => some (v.without names)

end

mutual

/-- What a tree says. -/
def value : Json → Value
  | .null => .null
  | .bool b => .bool b
  | .number n => .number n
  | .text s => .text s
  | .array items => .array (itemValues items)
  | .object members => .object (memberValues members)

def itemValues : List Json → List Value
  | [] => []
  | v :: items => v.value :: itemValues items

/-- What the members say under each name: the last of that name counts. -/
def memberValues : List (String × Json) → String → Option Value
  | [], _ => none
  | (key, v) :: members, name =>
    (memberValues members name).or (if key = name then some v.value else none)

end

/-- A property of trees, from the parts to the whole. -/
@[elab_as_elim]
theorem parts_induction {P : Json → Prop} (null : P .null) (bool : ∀ b, P (.bool b))
    (number : ∀ n, P (.number n)) (text : ∀ s, P (.text s))
    (array : ∀ items, (∀ v ∈ items, P v) → P (.array items))
    (object : ∀ members, (∀ m ∈ members, P m.2) → P (.object members)) (v : Json) : P v :=
  @Json.rec P (fun items => ∀ v ∈ items, P v) (fun members => ∀ m ∈ members, P m.2)
    (fun m => P m.2) null bool number text array object
    (fun _ h => absurd h List.not_mem_nil)
    (fun _ _ first others => List.forall_mem_cons.mpr ⟨first, others⟩)
    (fun _ h => absurd h List.not_mem_nil)
    (fun _ _ first others => List.forall_mem_cons.mpr ⟨first, others⟩)
    (fun _ _ h => h) v

/-! ## Members by name -/

section Members

variable {name : String} {members : List (String × Json)}

theorem memberValues_eq_none (h : ∀ m ∈ members, m.1 ≠ name) :
    memberValues members name = none := by
  induction members with
  | nil => rfl
  | cons m members ih =>
    obtain ⟨first, others⟩ := List.forall_mem_cons.mp h
    rw [memberValues, ih others, if_neg first, Option.or_none]

/-- A value that a name has is that of some member, though not of just any with that name: the last
one counts. -/
theorem exists_mem_of_memberValues {x : Value} (h : memberValues members name = some x) :
    ∃ v, (name, v) ∈ members ∧ v.value = x := by
  induction members with
  | nil => cases h
  | cons m members ih =>
    obtain ⟨key, w⟩ := m
    rw [memberValues, Option.or_eq_some_iff] at h
    rcases h with later | ⟨-, here⟩
    · obtain ⟨v, hv, hx⟩ := ih later
      exact ⟨v, List.mem_cons_of_mem _ hv, hx⟩
    · split at here
      · rename_i same
        subst same
        exact ⟨w, List.mem_cons_self, Option.some.inj here⟩
      · cases here

/-- Where every name comes once, each member counts. -/
theorem Ascending.memberValues_of_mem (ascending : Ascending members) {v : Json}
    (h : (name, v) ∈ members) : memberValues members name = some v.value := by
  induction members with
  | nil => cases h
  | cons m members ih =>
    obtain ⟨below, others⟩ := List.pairwise_cons.mp ascending
    rw [memberValues]
    rcases List.mem_cons.mp h with rfl | later
    · rw [memberValues_eq_none fun m hm => (below m hm).ne', if_pos rfl, Option.none_or]
    · rw [ih others later, Option.some_or]

/-- Putting a member in among sorted ones gives its name a value only if it had none, so that going
through the members from behind leaves the last value of each name. -/
theorem memberValues_insertMember (key : String) (v : Json) :
    memberValues (insertMember key v members) name =
      (memberValues members name).or (if key = name then some v.value else none) := by
  induction members with
  | nil => rfl
  | cons m members ih =>
    obtain ⟨k, w⟩ := m
    rw [insertMember]
    split
    · rfl
    · split
      · -- There is a member of that name, and it was written behind this one.
        rename_i same
        subst same
        by_cases named : key = name
        · rw [if_pos named, memberValues, if_pos named, Option.or_assoc, Option.some_or]
        · rw [if_neg named, Option.or_none]
      · rename_i differs
        rw [memberValues, memberValues, ih, Option.or_assoc, Option.or_assoc]
        -- At most one of the two has the name.
        by_cases named : key = name
        · have other : k ≠ name := fun same => differs (named.trans same.symm)
          rw [if_neg other, Option.or_none, Option.none_or]
        · rw [if_neg named, Option.none_or, Option.or_none]

theorem exists_of_mem_sortedMembers {m : String × Json} (h : m ∈ sortedMembers members) :
    ∃ n ∈ members, m = (n.1, n.2.sorted) := by
  induction members with
  | nil => cases h
  | cons first members ih =>
    obtain ⟨key, v⟩ := first
    rcases eq_or_mem_of_mem_insertMember h with rfl | later
    · exact ⟨(key, v), List.mem_cons_self, rfl⟩
    · obtain ⟨n, hn, same⟩ := ih later
      exact ⟨n, List.mem_cons_of_mem _ hn, same⟩

end Members

/-! ## Sorting and leaving out -/

mutual

/-- Sorting a tree does not change what it says. -/
theorem value_sorted : ∀ v : Json, v.sorted.value = v.value
  | .null => rfl
  | .bool _ => rfl
  | .number _ => rfl
  | .text _ => rfl
  | .array items => congrArg Value.array (itemValues_sortedItems items)
  | .object members => congrArg Value.object (memberValues_sortedMembers members)

/-- Sorting does not change what the items of a list stand for, nor their order. -/
theorem itemValues_sortedItems : ∀ items : List Json,
    itemValues (sortedItems items) = itemValues items
  | [] => rfl
  | v :: items => by
    rw [sortedItems, itemValues, itemValues, value_sorted v, itemValues_sortedItems items]

/-- Sorting members does not change which value a name has, since of several with one name the last
one is kept. -/
theorem memberValues_sortedMembers : ∀ members : List (String × Json),
    memberValues (sortedMembers members) = memberValues members
  | [] => rfl
  | (key, v) :: members => by
    funext name
    rw [sortedMembers, memberValues_insertMember, memberValues, value_sorted v,
      memberValues_sortedMembers members]

end

mutual

/-- What is left out of a tree is left out of what it says. -/
theorem value_without (names : List String) : ∀ v : Json,
    (v.without names).value = v.value.without names
  | .null => rfl
  | .bool _ => rfl
  | .number _ => rfl
  | .text _ => rfl
  | .array items => congrArg Value.array (itemValues_itemsWithout names items)
  | .object members => congrArg Value.object (memberValues_membersWithout names members)

/-- Leaving members out of trees is leaving them out of what the trees stand for, item by item. -/
theorem itemValues_itemsWithout (names : List String) : ∀ items : List Json,
    itemValues (itemsWithout names items) = Value.itemsWithout names (itemValues items)
  | [] => rfl
  | v :: items => by
    rw [itemsWithout, itemValues, itemValues, Value.itemsWithout, value_without names v,
      itemValues_itemsWithout names items]

/-- A name that is left out has no value at all, and with it goes every member that bears it. -/
theorem memberValues_membersWithout (names : List String) : ∀ members : List (String × Json),
    memberValues (membersWithout names members) = fun name =>
      if names.contains name then none else Value.memberWithout names (memberValues members name)
  | [] => by
    funext name
    rw [membersWithout, memberValues, Value.memberWithout, ite_self]
  | (key, v) :: members => by
    funext name
    have others := congrFun (memberValues_membersWithout names members) name
    rw [membersWithout, memberValues]
    split
    · -- A member that is dropped has no say about its own name, which is dropped whole, and none
      -- about others.
      rename_i dropped
      rw [others]
      by_cases named : key = name
      · subst named
        rw [if_pos dropped, if_pos dropped]
      · rw [if_neg named, Option.or_none]
    · rename_i kept
      rw [memberValues, others, value_without names v]
      by_cases named : key = name
      · subst named
        rw [if_neg kept, if_neg kept, if_pos rfl, if_pos rfl]
        cases memberValues members key <;> rfl
      · rw [if_neg named, if_neg named, Option.or_none, Option.or_none]

end

/-! ## Sorted trees -/

/-- Sorted members that say the same are the same, if each is told by what it says. -/
theorem Ascending.subset {ms ns : List (String × Json)} (hms : Ascending ms)
    (told : ∀ m ∈ ms, ∀ n ∈ ns, m.2.value = n.2.value → m.2 = n.2)
    (same : memberValues ms = memberValues ns) : ms ⊆ ns := by
  rintro ⟨key, v⟩ hm
  have here := hms.memberValues_of_mem hm
  rw [same] at here
  obtain ⟨w, hn, hw⟩ := exists_mem_of_memberValues here
  have twin : v = w := told _ hm _ hn hw.symm
  rw [twin]
  exact hn

/-- Members in the order of their names, each name once, are told by which value every name has. -/
theorem Ascending.eq {ms ns : List (String × Json)} (hms : Ascending ms) (hns : Ascending ns)
    (told : ∀ m ∈ ms, ∀ n ∈ ns, m.2.value = n.2.value → m.2 = n.2)
    (same : memberValues ms = memberValues ns) : ms = ns := by
  have irreflexive : Std.Irrefl fun m n : String × Json => m.1 < n.1 :=
    ⟨fun m => lt_irrefl m.1⟩
  have antisymmetric : Std.Antisymm fun m n : String × Json => m.1 < n.1 :=
    ⟨fun m n h h' => absurd (h.trans h') (lt_irrefl m.1)⟩
  exact List.Subset.antisymm_of_pairwise hms hns (hms.subset told same)
    (hns.subset (fun n hn m hm h => (told m hm n hn h.symm).symm) same.symm)

/-- Lists that stand for the same have equal sorted items, as long as this is known of each item. -/
theorem sortedItems_eq_of_itemValues_eq : ∀ {xs ys : List Json},
    (∀ v ∈ xs, ∀ w : Json, v.value = w.value → v.sorted = w.sorted) →
      itemValues xs = itemValues ys → sortedItems xs = sortedItems ys
  | [], [], _, _ => rfl
  | [], _ :: _, _, h => by cases h
  | _ :: _, [], _, h => by cases h
  | x :: xs, y :: ys, told, h => by
    rw [itemValues, itemValues, List.cons.injEq] at h
    obtain ⟨first, others⟩ := List.forall_mem_cons.mp told
    rw [sortedItems, sortedItems, first y h.1, sortedItems_eq_of_itemValues_eq others h.2]

/-- Trees that say the same are sorted the same. -/
theorem sorted_eq_of_value_eq (v : Json) : ∀ w : Json, v.value = w.value → v.sorted = w.sorted := by
  induction v using parts_induction with
  | null =>
    intro w h
    cases w <;> cases h
    rfl
  | bool b =>
    intro w h
    cases w <;> cases h
    rfl
  | number n =>
    intro w h
    cases w <;> cases h
    rfl
  | text s =>
    intro w h
    cases w <;> cases h
    rfl
  | array xs ih =>
    intro w h
    cases w with
    | array ys =>
      rw [value, value, Value.array.injEq] at h
      exact congrArg Json.array (sortedItems_eq_of_itemValues_eq ih h)
    | _ => cases h
  | object ms ih =>
    intro w h
    cases w with
    | object ns =>
      -- Members in any order give a sorted list that depends on the values of names only.
      rw [value, value, Value.object.injEq, ← memberValues_sortedMembers ms,
        ← memberValues_sortedMembers ns] at h
      refine congrArg Json.object
        ((ascending_sortedMembers ms).eq (ascending_sortedMembers ns) ?_ h)
      intro m hm n hn same
      obtain ⟨m₀, hm₀, rfl⟩ := exists_of_mem_sortedMembers hm
      obtain ⟨n₀, -, rfl⟩ := exists_of_mem_sortedMembers hn
      rw [value_sorted, value_sorted] at same
      exact ih m₀ hm₀ n₀.2 same
    | _ => cases h

/-- The sorted tree is what all trees of one meaning share. -/
theorem sorted_eq_iff {v w : Json} : v.sorted = w.sorted ↔ v.value = w.value := by
  refine ⟨fun h => ?_, sorted_eq_of_value_eq v w⟩
  rw [← value_sorted v, h, value_sorted w]

end SchemaRegistry.Json
