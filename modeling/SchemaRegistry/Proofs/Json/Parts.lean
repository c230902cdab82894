import SchemaRegistry.Proofs.Json.Scalar
/-!
# Lists and objects are read back

Lists and objects are read by loops, and what is said of the loops here does not mention shapes:
`readItems_itemChars` and `foldMembers_memberChars` are about anything that is read back item by
item and member by member. The first item is told apart from the others, because a comma stands in
front of those only, and so each statement comes in two parts.
-/

set_option autoImplicit false

namespace SchemaRegistry.Json

open Text (encoded encoded_cons encoded_append)

/-! ## Lists -/

/-- Whether what is written begins with no blank and does not close a list. -/
def Begins (cs : List Char) : Prop :=
  ∃ b more, encoded cs = b :: more ∧ isBlank b = false ∧ b ≠ 0x5d

/-- At the closing bracket there is no next item, whether or not there was one before. -/
theorem nextItem_close (first : Bool) (rest : Octets) :
    nextItem first (0x5d :: rest) = .ok (false, 0x5d :: rest) := by
  rw [nextItem, skipBlanks_cons (by decide)]
  rfl

/-- The first item follows at once. A bracket in its place would close the list. -/
theorem nextItem_first {b : UInt8} (blank : isBlank b = false) (opens : b ≠ 0x5d) (rest : Octets) :
    nextItem true (b :: rest) = .ok (true, b :: rest) := by
  rw [nextItem, skipBlanks_cons blank]
  split
  · simp_all
  · simp_all
  · simp_all

/-- Each further item follows a comma, and a bracket behind the comma is an error, so it must be
excluded here too. -/
theorem nextItem_comma {b : UInt8} (blank : isBlank b = false) (opens : b ≠ 0x5d) (rest : Octets) :
    nextItem false (0x2c :: b :: rest) = .ok (true, b :: rest) := by
  rw [nextItem, skipBlanks_cons (by decide)]
  split
  · simp_all
  · simp_all
  · rename_i same
    obtain ⟨rfl, rfl⟩ := List.cons.inj same
    rw [if_neg (by simp), if_neg (by simp), skipBlanks_cons blank]
    split
    · simp_all
    · simp_all
    · rfl

/-- The items behind the first, and the closing bracket. -/
def moreItemChars : List Json → List Char
  | [] => [']']
  | item :: items => ',' :: item.chars ++ moreItemChars items

/-- A list is written as its first item and the others, each of these with the comma in front of it.
-/
theorem itemChars_cons (item : Json) (items : List Json) :
    Json.itemChars (item :: items) = item.chars ++ moreItemChars items := by
  induction items generalizing item with
  | nil => rfl
  | cons next items ih =>
    rw [Json.itemChars, ih next, moreItemChars, List.cons_append]
    simp

section Items

variable {α : Type} {item : Nat → Octets → Outcome α} {tree : α → Json} {values : List α}

/-- Behind an item comes a comma or the closing bracket, and both end a numeral. -/
theorem ends_moreItemChars (items : List Json) (rest : Octets) :
    Ends (encoded (moreItemChars items) ++ rest) := by
  have comma : String.utf8EncodeChar ',' = [0x2c] := by decide
  have close : String.utf8EncodeChar ']' = [0x5d] := by decide
  rcases items with _ | ⟨item, items⟩
  · simp [moreItemChars, encoded_cons, close]
  · simp [moreItemChars, encoded_cons, comma]

/-- The items behind the first are read back one by one. Each is read in front of what is written of
those behind it, which is why being read back is asked for any rest. -/
theorem readItems_moreItemChars
    (back : ∀ v ∈ values, ∀ i rest, Ends rest →
      item i (encoded (tree v).chars ++ rest) = .ok (v, rest))
    (begins : ∀ v ∈ values, Begins (tree v).chars) {steps : Nat} (enough : values.length < steps)
    (index : Nat) (rest : Octets) :
    readItems item steps (index + 1) (encoded (moreItemChars (values.map tree)) ++ rest) =
      .ok (values, 0x5d :: rest) := by
  have comma : String.utf8EncodeChar ',' = [0x2c] := by decide
  have close : String.utf8EncodeChar ']' = [0x5d] := by decide
  induction values generalizing steps index with
  | nil =>
    obtain ⟨steps, rfl⟩ := Nat.exists_eq_add_of_lt enough
    simp [moreItemChars, encoded_cons, close, readItems, nextItem_close]
  | cons v values ih =>
    obtain ⟨first, others⟩ := List.forall_mem_cons.mp back
    obtain ⟨⟨b, more, hmore, blank, opens⟩, begins⟩ := List.forall_mem_cons.mp begins
    obtain ⟨steps, rfl⟩ := Nat.exists_eq_succ_of_ne_zero (Nat.ne_zero_of_lt enough)
    rw [List.length_cons] at enough
    -- The item ends at the comma or the bracket that the other items begin with.
    have read := first (index + 1) _ (ends_moreItemChars (values.map tree) rest)
    have next := ih others begins (by omega : values.length < steps) (index + 1)
    rw [List.map_cons, moreItemChars, List.cons_append, encoded_cons, comma, encoded_append,
      List.append_assoc, List.append_assoc, List.singleton_append]
    rw [hmore, List.cons_append] at read ⊢
    rw [readItems]
    have later : (index + 1 == 0) = false := rfl
    simp only [later, nextItem_comma blank opens, read, next]

/-- A list is read back if its items are. -/
theorem readItems_itemChars
    (back : ∀ v ∈ values, ∀ i rest, Ends rest →
      item i (encoded (tree v).chars ++ rest) = .ok (v, rest))
    (begins : ∀ v ∈ values, Begins (tree v).chars) {steps : Nat} (enough : values.length < steps)
    (rest : Octets) :
    readItems item steps 0 (encoded (Json.itemChars (values.map tree)) ++ rest) =
      .ok (values, 0x5d :: rest) := by
  obtain ⟨steps, rfl⟩ := Nat.exists_eq_succ_of_ne_zero (Nat.ne_zero_of_lt enough)
  rcases values with _ | ⟨v, values⟩
  · have close : String.utf8EncodeChar ']' = [0x5d] := by decide
    simp [Json.itemChars, encoded_cons, close, readItems, nextItem_close]
  · obtain ⟨first, others⟩ := List.forall_mem_cons.mp back
    obtain ⟨⟨b, more, hmore, blank, opens⟩, begins⟩ := List.forall_mem_cons.mp begins
    rw [List.length_cons] at enough
    have read := first 0 _ (ends_moreItemChars (values.map tree) rest)
    have next := readItems_moreItemChars others begins (by omega : values.length < steps) 0 rest
    rw [List.map_cons, itemChars_cons, encoded_append, List.append_assoc]
    rw [hmore, List.cons_append] at read ⊢
    rw [readItems]
    have now : (0 == 0) = true := rfl
    simp only [now, nextItem_first blank opens, read, next]

/-- The loop has as many steps as there are octets, and no item goes without an octet, so the steps
do not run out before the bracket. -/
theorem length_lt_moreItemChars (items : List Json) :
    items.length < (encoded (moreItemChars items)).length := by
  have comma : String.utf8EncodeChar ',' = [0x2c] := by decide
  have close : String.utf8EncodeChar ']' = [0x5d] := by decide
  induction items with
  | nil => simp [moreItemChars, encoded_cons, close]
  | cons item items ih =>
    rw [moreItemChars, List.cons_append, encoded_cons, comma, encoded_append]
    simp only [List.length_append, List.length_cons, List.length_nil]
    omega

/-- A list, with anything behind it, is at least as long as it has items. -/
theorem length_lt_itemChars_append (items : List Json) (rest : Octets) :
    items.length < (encoded (Json.itemChars items) ++ rest).length + 1 := by
  rcases items with _ | ⟨item, items⟩
  · simp
  · have more := length_lt_moreItemChars items
    rw [itemChars_cons, encoded_append, List.length_append, List.length_append, List.length_cons]
    omega

end Items

/-! ## Objects -/

/-- Whether a step that is taken for each of some members leads from one state to another. -/
def Leads {σ : Type} (step : String → σ → Octets → Outcome σ) : List (String × Json) → σ → σ → Prop
  | [], state, last => state = last
  | (key, value) :: members, state, last =>
    ∃ next, (∀ rest, Ends rest →
        step key state (0x3a :: (encoded value.chars ++ rest)) = .ok (next, rest)) ∧
      Leads step members next last

theorem nextKey_close (first : Bool) (rest : Octets) :
    nextKey first (0x7d :: rest) = .ok (false, 0x7d :: rest) := by
  rw [nextKey, skipBlanks_cons (by decide)]
  rfl

theorem nextKey_first (rest : Octets) : nextKey true (0x22 :: rest) = .ok (true, 0x22 :: rest) := by
  rw [nextKey, skipBlanks_cons (by decide)]
  rfl

theorem nextKey_comma (rest : Octets) :
    nextKey false (0x2c :: 0x22 :: rest) = .ok (true, 0x22 :: rest) := by
  rw [nextKey, skipBlanks_cons (by decide)]
  rfl

theorem readKey_quotedChars (key : String) (rest : Octets) :
    readKey (encoded (quotedChars key) ++ rest) = .ok (key, rest) := by
  rw [readKey, encoded_quotedChars, List.drop_succ_cons, List.drop_zero, readText_quoted]
  rfl

theorem readColon_cons (bs : Octets) : readColon (0x3a :: bs) = .ok bs := by
  rw [readColon, skipBlanks_cons (by decide)]
  rfl

/-- The members behind the first, and the closing bracket. -/
def moreMemberChars : List (String × Json) → List Char
  | [] => ['\x7d']
  | (key, value) :: members =>
    ',' :: quotedChars key ++ ':' :: value.chars ++ moreMemberChars members

/-- An object is written as its first member and the others, each of these with the comma in front
of it. -/
theorem memberChars_cons (key : String) (value : Json) (members : List (String × Json)) :
    Json.memberChars ((key, value) :: members) =
      quotedChars key ++ ':' :: value.chars ++ moreMemberChars members := by
  induction members generalizing key value with
  | nil => rfl
  | cons next members ih =>
    obtain ⟨nextKey, nextValue⟩ := next
    rw [Json.memberChars, ih nextKey nextValue, moreMemberChars]
    · simp
    · simp

section Members

variable {σ : Type} {step : String → σ → Octets → Outcome σ} {members : List (String × Json)}
  {state last : σ}

theorem ends_moreMemberChars (members : List (String × Json)) (rest : Octets) :
    Ends (encoded (moreMemberChars members) ++ rest) := by
  have comma : String.utf8EncodeChar ',' = [0x2c] := by decide
  have close : String.utf8EncodeChar '\x7d' = [0x7d] := by decide
  rcases members with _ | ⟨⟨key, value⟩, members⟩
  · simp [moreMemberChars, encoded_cons, close]
  · simp [moreMemberChars, encoded_cons, comma]

/-- The members behind the first lead on from one state to the next, each in front of what is
written of those behind it. -/
theorem foldMembers_moreMemberChars (leads : Leads step members state last) {steps : Nat}
    (enough : members.length < steps) (rest : Octets) :
    foldMembers step steps false state (encoded (moreMemberChars members) ++ rest) =
      .ok (last, 0x7d :: rest) := by
  have comma : String.utf8EncodeChar ',' = [0x2c] := by decide
  have colon : String.utf8EncodeChar ':' = [0x3a] := by decide
  have close : String.utf8EncodeChar '\x7d' = [0x7d] := by decide
  obtain ⟨steps, rfl⟩ := Nat.exists_eq_succ_of_ne_zero (Nat.ne_zero_of_lt enough)
  -- On the members, with the steps and the state free: each member takes one step and hands its
  -- state on.
  induction members generalizing steps state with
  | nil =>
    obtain rfl : state = last := leads
    simp [moreMemberChars, encoded_cons, close, foldMembers, nextKey_close, inside, Except.mapError]
  | cons member members ih =>
    obtain ⟨key, value⟩ := member
    obtain ⟨next, hstep, leads⟩ := leads
    rw [List.length_cons] at enough
    obtain ⟨steps, rfl⟩ := Nat.exists_eq_succ_of_ne_zero (by omega : steps ≠ 0)
    have stepped := hstep _ (ends_moreMemberChars members rest)
    have further := ih leads steps (by omega)
    have hkey := readKey_quotedChars key
      (0x3a :: (encoded value.chars ++ (encoded (moreMemberChars members) ++ rest)))
    simp only [moreMemberChars, List.cons_append, List.append_assoc, encoded_cons, encoded_append,
      comma, colon, List.nil_append]
    rw [encoded_quotedChars] at hkey ⊢
    rw [foldMembers, nextKey_comma]
    simp only [inside, Except.mapError, hkey, stepped, further]

/-- An object is read back if its members lead to what it is. -/
theorem foldMembers_memberChars (leads : Leads step members state last) {steps : Nat}
    (enough : members.length < steps) (rest : Octets) :
    foldMembers step steps true state (encoded (Json.memberChars members) ++ rest) =
      .ok (last, 0x7d :: rest) := by
  have colon : String.utf8EncodeChar ':' = [0x3a] := by decide
  obtain ⟨steps, rfl⟩ := Nat.exists_eq_succ_of_ne_zero (Nat.ne_zero_of_lt enough)
  rcases members with _ | ⟨⟨key, value⟩, members⟩
  · have close : String.utf8EncodeChar '\x7d' = [0x7d] := by decide
    obtain rfl : state = last := leads
    simp [Json.memberChars, encoded_cons, close, foldMembers, nextKey_close, inside,
      Except.mapError]
  · obtain ⟨next, hstep, leads⟩ := leads
    rw [List.length_cons] at enough
    have stepped := hstep _ (ends_moreMemberChars members rest)
    have further := foldMembers_moreMemberChars leads (by omega : members.length < steps) rest
    have hkey := readKey_quotedChars key
      (0x3a :: (encoded value.chars ++ (encoded (moreMemberChars members) ++ rest)))
    rw [memberChars_cons]
    simp only [List.cons_append, List.append_assoc, encoded_cons, encoded_append, colon,
      List.nil_append]
    rw [encoded_quotedChars] at hkey ⊢
    rw [foldMembers, nextKey_first]
    simp only [inside, Except.mapError, hkey, stepped, further]

theorem length_lt_moreMemberChars (members : List (String × Json)) :
    members.length < (encoded (moreMemberChars members)).length := by
  have comma : String.utf8EncodeChar ',' = [0x2c] := by decide
  have close : String.utf8EncodeChar '\x7d' = [0x7d] := by decide
  induction members with
  | nil => simp [moreMemberChars, encoded_cons, close]
  | cons member members ih =>
    obtain ⟨key, value⟩ := member
    rw [moreMemberChars, List.append_assoc, List.cons_append, encoded_cons, comma, encoded_append,
      encoded_append]
    simp only [List.length_append, List.length_cons, List.length_nil]
    omega

/-- An object, with anything behind it, is at least as long as it has members. -/
theorem length_lt_memberChars_append (members : List (String × Json)) (rest : Octets) :
    members.length < (encoded (Json.memberChars members) ++ rest).length + 1 := by
  rcases members with _ | ⟨⟨key, value⟩, members⟩
  · simp
  · have more := length_lt_moreMemberChars members
    rw [memberChars_cons, encoded_append, List.length_append, List.length_append, List.length_cons]
    omega

end Members

end SchemaRegistry.Json
