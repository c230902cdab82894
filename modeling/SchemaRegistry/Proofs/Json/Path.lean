import Mathlib.Data.Option.Defs
import SchemaRegistry.Proofs.Json.Alike
import SchemaRegistry.Proofs.Json.Value
/-!
# Places in a document

A path of names and indices leads to a place in a document. Leaving members out of a document takes
away the places behind them and no others (`at?_without`), and documents that are written the same
have the same places (`Alike.at?`), with the same kinds of values there.
-/

set_option autoImplicit false

namespace SchemaRegistry.Json

/-- A step into an object or an array. -/
inductive Key where
  | name (s : String)
  | index (i : Nat)
  deriving DecidableEq

/-- Whether the step is to a member of one of those names. -/
def Key.isAmong (names : List String) : Key → Bool
  | .name s => names.contains s
  | .index _ => false

namespace Value

/-- What stands under a key. -/
def child : Value → Key → Option Value
  | .object members, .name s => members s
  | .array items, .index i => items[i]?
  | _, _ => none

/-- What a path leads to. -/
def at? (v : Value) : List Key → Option Value
  | [] => some v
  | key :: path => (v.child key).bind fun below => below.at? path

/-- Whether the value is an object. -/
def IsObject (v : Value) : Prop :=
  ∃ members, v = .object members

/-! ## Places behind members that are left out -/

theorem itemsWithout_eq_map (names : List String) (items : List Value) :
    itemsWithout names items = items.map (without names) := by
  induction items with
  | nil => rfl
  | cons v items ih => rw [itemsWithout, List.map_cons, ih]

theorem memberWithout_eq_map (names : List String) (member : Option Value) :
    memberWithout names member = member.map (without names) := by
  cases member <;> rfl

/-- One step into a document that was cut back is a step into the document, and then cutting back
what is there. A step to a member that was left out leads nowhere. -/
theorem child_without (names : List String) (v : Value) (key : Key) :
    (v.without names).child key =
      if key.isAmong names then none else (v.child key).map (without names) := by
  cases v with
  | object members =>
    cases key with
    | name s => exact congrArg (ite _ none) (memberWithout_eq_map names (members s))
    | index i => rfl
  | array items =>
    cases key with
    | name s => exact (ite_self none).symm
    | index i =>
      change (itemsWithout names items)[i]? = _
      rw [itemsWithout_eq_map, List.getElem?_map]
      rfl
  | _ => cases key <;> simp [child, without]

/-- What is left out takes with it what stands behind it, and nothing else. -/
theorem at?_without (names : List String) (v : Value) (path : List Key) :
    (v.without names).at? path =
      if path.any (·.isAmong names) then none else (v.at? path).map (without names) := by
  induction path generalizing v with
  | nil => rfl
  | cons key path ih =>
    rw [at?, at?, child_without, List.any_cons]
    by_cases dropped : key.isAmong names = true
    · rw [if_pos dropped, if_pos (by rw [dropped, Bool.true_or]), Option.bind_none]
    · rw [if_neg dropped, Bool.eq_false_iff.mpr dropped, Bool.false_or]
      cases v.child key with
      | none => exact (ite_self none).symm
      | some below => exact ih below

theorem isObject_without_iff {names : List String} {v : Value} :
    (v.without names).IsObject ↔ v.IsObject := by
  cases v with
  | object members => exact ⟨fun _ => ⟨_, rfl⟩, fun _ => ⟨_, rfl⟩⟩
  | _ => exact ⟨fun ⟨_, h⟩ => (nomatch h), fun ⟨_, h⟩ => (nomatch h)⟩

/-! ## Places in documents that are written the same -/

/-- Whether two values are what two trees say that are written the same. -/
def Alike (p q : Value) : Prop :=
  ∃ v w : Json, v.Alike w ∧ v.value = p ∧ w.value = q

theorem Alike.isObject_iff {p q : Value} (h : p.Alike q) : p.IsObject ↔ q.IsObject := by
  obtain ⟨v, w, alike, rfl, rfl⟩ := h
  cases alike with
  | object members => exact ⟨fun _ => ⟨_, rfl⟩, fun _ => ⟨_, rfl⟩⟩
  | _ => exact ⟨fun ⟨_, h⟩ => (nomatch h), fun ⟨_, h⟩ => (nomatch h)⟩

/-- Names are written in both, so the same names have values, and the last of several counts in
both. -/
theorem alike_memberValues {ms ns : List (String × Json)} (h : MembersAlike ms ns) (name : String) :
    Option.Rel Alike (memberValues ms name) (memberValues ns name) := by
  induction ms generalizing ns with
  | nil =>
    cases h
    exact .none
  | cons m ms ih =>
    obtain ⟨key, v⟩ := m
    cases h with
    | cons key first others =>
      rename_i w ns
      have behind := ih others
      rw [memberValues, memberValues]
      generalize memberValues ms name = a, memberValues ns name = b at behind
      cases behind with
      | some alike => exact .some alike
      | none =>
        by_cases named : key = name
        · rw [if_pos named, if_pos named]
          exact .some ⟨_, _, first, rfl, rfl⟩
        · rw [if_neg named, if_neg named]
          exact .none

theorem alike_itemValues {xs ys : List Json} (h : ItemsAlike xs ys) (i : Nat) :
    Option.Rel Alike (itemValues xs)[i]? (itemValues ys)[i]? := by
  induction xs generalizing ys i with
  | nil =>
    cases h
    exact .none
  | cons x xs ih =>
    cases h with
    | cons first others =>
      cases i with
      | zero => exact .some ⟨_, _, first, rfl, rfl⟩
      | succ i => exact ih others i

/-- Documents that are written the same have the same keys, and behind each key they are written the
same again. -/
theorem Alike.child {p q : Value} (h : p.Alike q) (key : Key) :
    Option.Rel Alike (p.child key) (q.child key) := by
  obtain ⟨v, w, alike, rfl, rfl⟩ := h
  cases alike with
  | array items =>
    cases key with
    | name s => exact .none
    | index i => exact alike_itemValues items i
  | object members =>
    cases key with
    | name s => exact alike_memberValues members s
    | index i => exact .none
  | _ => cases key <;> exact .none

/-- Values that are written the same have the same places. -/
theorem Alike.at? {p q : Value} (h : p.Alike q) (path : List Key) :
    Option.Rel Alike (p.at? path) (q.at? path) := by
  induction path generalizing p q with
  | nil => exact .some h
  | cons key path ih =>
    have step := h.child key
    rw [Value.at?, Value.at?]
    generalize p.child key = below, q.child key = below' at step
    cases step with
    | none => exact .none
    | some alike => exact ih alike

end Value

end SchemaRegistry.Json
