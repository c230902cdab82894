import SchemaRegistry.Json.Canonical
import SchemaRegistry.Proofs.Json.Numeral
import SchemaRegistry.Proofs.Json.Parts
/-!
# What the compact form of a document tells

Two trees are alike if they differ at most in numbers that are written the same. The compact form
tells a tree up to that: it can be read in only one way, whatever is written behind it
(`alike_of_chars_append`). The first character tells the kind of a value, a quoted text and a
bracketed list end by themselves, and a numeral goes on as far as there are characters that can
stand in one.
-/

set_option autoImplicit false

namespace SchemaRegistry.Json

open Text (encoded)

/-! ## Trees that are written the same -/

mutual

/-- Whether two trees differ at most in numbers that are written the same. -/
inductive Alike : Json → Json → Prop
  | null : Alike .null .null
  | bool (b : Bool) : Alike (.bool b) (.bool b)
  | number {m n : Number} : m.chars = n.chars → Alike (.number m) (.number n)
  | text (s : String) : Alike (.text s) (.text s)
  | array {xs ys : List Json} : ItemsAlike xs ys → Alike (.array xs) (.array ys)
  | object {ms ns : List (String × Json)} : MembersAlike ms ns → Alike (.object ms) (.object ns)

inductive ItemsAlike : List Json → List Json → Prop
  | nil : ItemsAlike [] []
  | cons {x y : Json} {xs ys : List Json} :
    Alike x y → ItemsAlike xs ys → ItemsAlike (x :: xs) (y :: ys)

inductive MembersAlike : List (String × Json) → List (String × Json) → Prop
  | nil : MembersAlike [] []
  | cons (key : String) {v w : Json} {ms ns : List (String × Json)} :
    Alike v w → MembersAlike ms ns → MembersAlike ((key, v) :: ms) ((key, w) :: ns)

end

mutual

/-- Values that are alike are written the same. Of their numbers no more than that is known, since
two of them may have one numeral. -/
theorem Alike.chars_eq : ∀ {v w : Json}, Alike v w → v.chars = w.chars
  | _, _, .null => rfl
  | _, _, .bool _ => rfl
  | _, _, .number same => by rw [Json.chars, Json.chars, same]
  | _, _, .text _ => rfl
  | _, _, .array .nil => rfl
  | _, _, .array (.cons first others) => by
    rw [Json.chars, Json.chars, itemChars_cons, itemChars_cons, first.chars_eq,
      others.moreItemChars_eq]
  | _, _, .object .nil => rfl
  | _, _, .object (.cons key first others) => by
    rw [Json.chars, Json.chars, memberChars_cons, memberChars_cons, first.chars_eq,
      others.moreMemberChars_eq]

theorem ItemsAlike.moreItemChars_eq : ∀ {xs ys : List Json}, ItemsAlike xs ys →
    moreItemChars xs = moreItemChars ys
  | _, _, .nil => rfl
  | _, _, .cons first others => by
    rw [moreItemChars, moreItemChars, first.chars_eq, others.moreItemChars_eq]

/-- Objects are alike member by member, in the order of the members. -/
theorem MembersAlike.moreMemberChars_eq : ∀ {ms ns : List (String × Json)}, MembersAlike ms ns →
    moreMemberChars ms = moreMemberChars ns
  | _, _, .nil => rfl
  | _, _, .cons key first others => by
    rw [moreMemberChars, moreMemberChars, first.chars_eq, others.moreMemberChars_eq]

end

mutual

/-- What is left out is told by names, and values that are alike have the same names. -/
theorem Alike.without (names : List String) : ∀ {v w : Json}, Alike v w →
    Alike (v.without names) (w.without names)
  | _, _, .null => .null
  | _, _, .bool b => .bool b
  | _, _, .number same => .number same
  | _, _, .text s => .text s
  | _, _, .array items => .array (items.without names)
  | _, _, .object members => .object (members.without names)

theorem ItemsAlike.without (names : List String) : ∀ {xs ys : List Json}, ItemsAlike xs ys →
    ItemsAlike (itemsWithout names xs) (itemsWithout names ys)
  | _, _, .nil => .nil
  | _, _, .cons first others => .cons (first.without names) (others.without names)

/-- A member is left out of both or of neither, since it has one name in both. -/
theorem MembersAlike.without (names : List String) : ∀ {ms ns : List (String × Json)},
    MembersAlike ms ns → MembersAlike (membersWithout names ms) (membersWithout names ns)
  | _, _, .nil => .nil
  | _, _, .cons key first others => by
    rw [membersWithout, membersWithout]
    split
    · exact others.without names
    · exact .cons key (first.without names) (others.without names)

end

/-! ## Kinds of values, by their first character -/

inductive Kind where
  | null
  | bool
  | number
  | text
  | array
  | object
  deriving DecidableEq

/-- The kind of the value that begins with the character. -/
def Kind.ofFirst (c : Char) : Kind :=
  if c = 'n' then .null
  else if c = 't' ∨ c = 'f' then .bool
  else if c = '"' then .text
  else if c = '[' then .array
  else if c = '\x7b' then .object
  else .number

def kind : Json → Kind
  | .null => .null
  | .bool _ => .bool
  | .number _ => .number
  | .text _ => .text
  | .array _ => .array
  | .object _ => .object

/-- No other kind of value begins with what a numeral may begin with. -/
theorem Kind.ofFirst_of_isNumeric {c : Char} (h : IsNumeric c) : ofFirst c = .number := by
  have apart : ∀ d : Char, d.isDigit = false → d ∉ ['-', '+', '.', 'e'] → c ≠ d :=
    fun _ => h.ne
  simp [Kind.ofFirst, apart 'n' (by decide) (by decide), apart 't' (by decide) (by decide),
    apart 'f' (by decide) (by decide), apart '"' (by decide) (by decide),
    apart '[' (by decide) (by decide), apart '\x7b' (by decide) (by decide)]

/-- A value begins with a character of its kind, which does not close a list. -/
theorem exists_first (v : Json) :
    ∃ c more, v.chars = c :: more ∧ Kind.ofFirst c = v.kind ∧ c ≠ ']' := by
  cases v with
  | null => exact ⟨_, _, rfl, by decide, by decide⟩
  | bool b => cases b <;> exact ⟨_, _, rfl, by decide, by decide⟩
  | number n =>
    obtain ⟨c, more, hmore⟩ := List.exists_cons_of_ne_nil n.chars_ne_nil
    have first : IsNumeric c := n.numeric_chars c (by rw [hmore]; exact List.mem_cons_self)
    exact ⟨c, more, hmore, Kind.ofFirst_of_isNumeric first, first.ne (by decide) (by decide)⟩
  | text s => exact ⟨_, _, rfl, by rw [kind]; decide, by decide⟩
  | array items => exact ⟨_, _, rfl, by rw [kind]; decide, by decide⟩
  | object members => exact ⟨_, _, rfl, by rw [kind]; decide, by decide⟩

/-- Whatever stands behind a value, what kind it is shows in its first character. -/
theorem kind_eq_of_chars_append {v w : Json} {us ts : List Char}
    (h : v.chars ++ us = w.chars ++ ts) : v.kind = w.kind := by
  obtain ⟨c, more, hv, hkind, -⟩ := exists_first v
  obtain ⟨d, more', hw, hkind', -⟩ := exists_first w
  rw [hv, hw] at h
  rw [← hkind, ← hkind', (List.cons.inj h).1]

/-! ## Reading values back -/

/-- Whether nothing follows, or what may follow a value in a list or an object. -/
def Stops (rest : List Char) : Prop :=
  ∀ c ∈ rest.head?, c ∈ [',', ']', '\x7d']

/-- What may follow a value cannot stand in a numeral, so a numeral ends there. -/
theorem Stops.not_isNumeric {rest : List Char} (h : Stops rest) :
    ∀ c ∈ rest.head?, ¬ IsNumeric c := by
  intro c hc numeric
  have hmem := h c hc
  simp only [List.mem_cons, List.not_mem_nil, or_false] at hmem
  rcases hmem with rfl | rfl | rfl <;> exact numeric.ne (by decide) (by decide) rfl

/-- Behind an item stands the comma in front of the next one, or the bracket. -/
theorem stops_moreItemChars (items : List Json) (rest : List Char) :
    Stops (moreItemChars items ++ rest) := by
  cases items <;> simp [Stops, moreItemChars]

/-- Behind the value of a member stands the comma in front of the next one, or the brace. -/
theorem stops_moreMemberChars (members : List (String × Json)) (rest : List Char) :
    Stops (moreMemberChars members ++ rest) := by
  rcases members with _ | ⟨⟨key, v⟩, members⟩ <;> simp [Stops, moreMemberChars]

/-- A quoted text says itself where it ends. -/
theorem quotedChars_append_inj {s t : String} {us ts : List Char}
    (h : quotedChars s ++ us = quotedChars t ++ ts) : s = t ∧ us = ts := by
  have octets := congrArg encoded h
  rw [Text.encoded_append, Text.encoded_append] at octets
  have read := readKey_quotedChars s (encoded us)
  rw [octets, readKey_quotedChars] at read
  obtain rfl : t = s := (Prod.mk.inj (Except.ok.inj read)).1
  exact ⟨rfl, List.append_cancel_left h⟩

mutual

/-- A value can be read in only one way, whatever stands behind it. -/
theorem alike_of_chars_append : ∀ (v w : Json) {us ts : List Char}, Stops us → Stops ts →
    v.chars ++ us = w.chars ++ ts → Alike v w ∧ us = ts
  | .null, w, us, ts, _, _, h => by
    have same := kind_eq_of_chars_append h
    cases w with
    | null => exact ⟨.null, List.append_cancel_left h⟩
    | _ => cases same
  | .bool b, w, us, ts, _, _, h => by
    have same := kind_eq_of_chars_append h
    cases w with
    | bool c =>
      obtain rfl : b = c := by cases b <;> cases c <;> simp [Json.chars] at h ⊢
      exact ⟨.bool b, List.append_cancel_left h⟩
    | _ => cases same
  | .number n, w, us, ts, hus, hts, h => by
    have same := kind_eq_of_chars_append h
    cases w with
    | number m =>
      rw [Json.chars, Json.chars] at h
      -- A numeral bears no mark of its end; it ends where no more of it can stand.
      obtain ⟨numerals, rest⟩ := Text.append_inj_of_forall n.numeric_chars m.numeric_chars
        hus.not_isNumeric hts.not_isNumeric h
      exact ⟨.number numerals, rest⟩
    | _ => cases same
  | .text s, w, us, ts, _, _, h => by
    have same := kind_eq_of_chars_append h
    cases w with
    | text t =>
      rw [Json.chars, Json.chars] at h
      obtain ⟨rfl, rest⟩ := quotedChars_append_inj h
      exact ⟨.text s, rest⟩
    | _ => cases same
  | .array [], w, us, ts, _, _, h => by
    have same := kind_eq_of_chars_append h
    cases w with
    | array ys =>
      rw [Json.chars, Json.chars, List.cons_append, List.cons_append] at h
      have inner := List.tail_eq_of_cons_eq h
      cases ys with
      | nil => exact ⟨.array .nil, List.append_cancel_left inner⟩
      | cons y ys =>
        -- An item does not begin with the bracket that closes the list.
        obtain ⟨c, more, hy, -, hc⟩ := exists_first y
        rw [itemChars_cons, hy] at inner
        exact absurd (List.cons.inj inner).1.symm hc
    | _ => cases same
  | .array (x :: xs), w, us, ts, _, _, h => by
    have same := kind_eq_of_chars_append h
    cases w with
    | array ys =>
      rw [Json.chars, Json.chars, List.cons_append, List.cons_append] at h
      have inner := List.tail_eq_of_cons_eq h
      cases ys with
      | nil =>
        obtain ⟨c, more, hx, -, hc⟩ := exists_first x
        rw [itemChars_cons, hx] at inner
        exact absurd (List.cons.inj inner).1 hc
      | cons y ys =>
        rw [itemChars_cons, itemChars_cons, List.append_assoc, List.append_assoc] at inner
        obtain ⟨first, others⟩ := alike_of_chars_append x y (stops_moreItemChars xs us)
          (stops_moreItemChars ys ts) inner
        obtain ⟨items, rest⟩ := itemsAlike_of_chars_append xs ys others
        exact ⟨.array (.cons first items), rest⟩
    | _ => cases same
  | .object [], w, us, ts, _, _, h => by
    have same := kind_eq_of_chars_append h
    cases w with
    | object ns =>
      rw [Json.chars, Json.chars, List.cons_append, List.cons_append] at h
      have inner := List.tail_eq_of_cons_eq h
      rcases ns with _ | ⟨⟨key, y⟩, ns⟩
      · exact ⟨.object .nil, List.append_cancel_left inner⟩
      · rw [memberChars_cons] at inner
        cases inner
    | _ => cases same
  | .object ((key, x) :: ms), w, us, ts, _, _, h => by
    have same := kind_eq_of_chars_append h
    cases w with
    | object ns =>
      rw [Json.chars, Json.chars, List.cons_append, List.cons_append] at h
      have inner := List.tail_eq_of_cons_eq h
      rcases ns with _ | ⟨⟨key', y⟩, ns⟩
      · rw [memberChars_cons] at inner
        cases inner
      · rw [memberChars_cons, memberChars_cons] at inner
        simp only [List.append_assoc, List.cons_append] at inner
        obtain ⟨rfl, values⟩ := quotedChars_append_inj inner
        obtain ⟨first, others⟩ := alike_of_chars_append x y (stops_moreMemberChars ms us)
          (stops_moreMemberChars ns ts) (List.tail_eq_of_cons_eq values)
        obtain ⟨members, rest⟩ := membersAlike_of_chars_append ms ns others
        exact ⟨.object (.cons key first members), rest⟩
    | _ => cases same

/-- The list ends at the same place in both: a comma says that an item follows, and a bracket that
none does. -/
theorem itemsAlike_of_chars_append : ∀ (xs ys : List Json) {us ts : List Char},
    moreItemChars xs ++ us = moreItemChars ys ++ ts → ItemsAlike xs ys ∧ us = ts
  | [], [], us, ts, h => ⟨.nil, List.append_cancel_left h⟩
  | [], y :: ys, us, ts, h => by cases h
  | x :: xs, [], us, ts, h => by cases h
  | x :: xs, y :: ys, us, ts, h => by
    simp only [moreItemChars, List.cons_append, List.append_assoc] at h
    obtain ⟨first, others⟩ := alike_of_chars_append x y (stops_moreItemChars xs us)
      (stops_moreItemChars ys ts) (List.tail_eq_of_cons_eq h)
    obtain ⟨items, rest⟩ := itemsAlike_of_chars_append xs ys others
    exact ⟨.cons first items, rest⟩

/-- The object ends at the same place in both, and the names are read before the values. -/
theorem membersAlike_of_chars_append : ∀ (ms ns : List (String × Json)) {us ts : List Char},
    moreMemberChars ms ++ us = moreMemberChars ns ++ ts → MembersAlike ms ns ∧ us = ts
  | [], [], us, ts, h => ⟨.nil, List.append_cancel_left h⟩
  | [], (_, _) :: _, us, ts, h => by cases h
  | (_, _) :: _, [], us, ts, h => by cases h
  | (key, v) :: ms, (key', w) :: ns, us, ts, h => by
    simp only [moreMemberChars, List.cons_append, List.append_assoc] at h
    obtain ⟨rfl, inner⟩ := quotedChars_append_inj (List.tail_eq_of_cons_eq h)
    obtain ⟨first, others⟩ := alike_of_chars_append v w (stops_moreMemberChars ms us)
      (stops_moreMemberChars ns ts) (List.tail_eq_of_cons_eq inner)
    obtain ⟨members, rest⟩ := membersAlike_of_chars_append ms ns others
    exact ⟨.cons key first members, rest⟩

end

/-- The compact form tells a tree, up to numbers that are written the same. -/
theorem alike_iff_chars_eq {v w : Json} : Alike v w ↔ v.chars = w.chars := by
  have nothing : Stops [] := by simp [Stops]
  refine ⟨Alike.chars_eq, fun h => ?_⟩
  exact (alike_of_chars_append v w nothing nothing (by rw [h])).1

end SchemaRegistry.Json
