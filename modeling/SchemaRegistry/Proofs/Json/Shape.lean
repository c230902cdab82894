import SchemaRegistry.Json.Shape.Read
import SchemaRegistry.Json.Shape.Write
import SchemaRegistry.Proofs.Json.Parts
/-!
# Values are read back

What is written of a value is read back as that value. This holds of every shape that says itself
what it reads: one in which no name comes twice and in which nothing can be told in two ways, as an
optional value of an optional value could. Shapes that are read as a tree first, and instants, which
have a text of their own, are not among them.

The induction follows the shape, and for a record its fields, where it says what is known of the
fields once the members written of them have been read.
-/

set_option autoImplicit false

namespace SchemaRegistry.Json

open Text (encoded encoded_cons)

/-! ## Plain shapes -/

def Fields.keys : Fields → List String
  | .nil => []
  | .cons key _ _ rest => key :: rest.keys

def Shape.isOptional : Shape → Bool
  | .optional _ => true
  | _ => false

mutual

/-- Whether what is written of the shape can be read in one way only, and is read as it comes. -/
def Shape.isPlain : Shape → Bool
  | .text | .flag | .word _ => true
  | .choice names => names.Nodup
  | .list item => item.isPlain
  | .optional inner => inner.isPlain && !inner.isOptional
  | .record _ fields => fields.isPlain
  | .instant | .tagged .. => false

def Fields.isPlain : Fields → Bool
  | .nil => true
  | .cons key _ shape rest => !rest.keys.contains key && shape.isPlain && rest.isPlain

end

mutual

/-- How deep lists and objects are nested in a value of the shape. -/
def Shape.height : Shape → Nat
  | .list item => item.height + 1
  | .optional inner => inner.height
  | .record _ fields => fields.height + 1
  | _ => 0

def Fields.height : Fields → Nat
  | .nil => 0
  | .cons _ _ shape rest => max shape.height rest.height

end

/-! ## Words and names -/

theorem isWord_toInt (w : Word) (n : w.Carrier) : IsWord (w.toInt n) := by
  rcases w with _ | _ | _ | _
  · have bound := UInt16.toNat_lt n
    simp only [IsWord, Word.toInt]
    omega
  · have bound := UInt32.toNat_lt n
    simp only [IsWord, Word.toInt]
    omega
  · have bound := UInt64.toNat_lt n
    simp only [IsWord, Word.toInt]
    omega
  · have low := Int64.le_toInt n
    have high := Int64.toInt_lt n
    simp only [IsWord, Word.toInt]
    omega

/-- Each kind of word takes back its own numbers, whatever its bounds are. -/
theorem ofInt?_toInt (w : Word) (n : w.Carrier) : w.ofInt? (w.toInt n) = some n := by
  rcases w with _ | _ | _ | _
  · have bound := UInt16.toNat_lt n
    have inRange : 0 ≤ Word.u16.toInt n ∧ Word.u16.toInt n < 65536 := by
      simp only [Word.toInt]
      omega
    rw [Word.ofInt?, if_pos inRange]
    exact congrArg some UInt16.ofNat_toNat
  · have bound := UInt32.toNat_lt n
    have inRange : 0 ≤ Word.u32.toInt n ∧ Word.u32.toInt n < 4294967296 := by
      simp only [Word.toInt]
      omega
    rw [Word.ofInt?, if_pos inRange]
    exact congrArg some UInt32.ofNat_toNat
  · have bound := UInt64.toNat_lt n
    have inRange : 0 ≤ Word.u64.toInt n ∧ Word.u64.toInt n < 18446744073709551616 := by
      simp only [Word.toInt]
      omega
    rw [Word.ofInt?, if_pos inRange]
    exact congrArg some UInt64.ofNat_toNat
  · -- The signed word is bounded at both ends.
    have low := Int64.le_toInt n
    have high := Int64.toInt_lt n
    have inRange : -9223372036854775808 ≤ Word.i64.toInt n ∧
        Word.i64.toInt n < 9223372036854775808 := by
      simp only [Word.toInt]
      omega
    rw [Word.ofInt?, if_pos inRange]
    exact congrArg some (Int64.ofInt_toInt n)

/-- A variant is told by its name only if no other has the same name. -/
theorem indexOf?_get {names : List String} (h : names.Nodup) (i : Fin names.length) :
    indexOf? (names.get i) names = some i := by
  induction names with
  | nil => exact i.elim0
  | cons name names ih =>
    obtain ⟨apart, others⟩ := List.nodup_cons.mp h
    have step (wanted : String) : indexOf? wanted (name :: names) =
        if name = wanted then some 0 else (indexOf? wanted names).map Fin.succ := rfl
    rw [step]
    induction i using Fin.cases with
    | zero => simp
    | succ i =>
      have different : name ≠ names.get i := by
        intro same
        exact apart (same ▸ List.get_mem names i)
      simp only [List.get_cons_succ']
      rw [if_neg different, ih others i]
      rfl

theorem take_toInt (w : Word) (n : w.Carrier) :
    w.take (.number (.integer (w.toInt n))) = .ok n := by
  rw [Word.take, ofInt?_toInt]

/-- A variant is written as its name, and taken from that name by its place. -/
theorem takeVariant_get {names : List String} (h : names.Nodup) (i : Fin names.length) :
    takeVariant names (.text (names.get i)) = .ok i := by
  rw [takeVariant, indexOf?_get h]

/-! ## How values begin -/

/-- Only an optional value may begin as nothing does, and no value closes a list. -/
theorem Shape.exists_encoded_of_not_optional {s : Shape} (plain : s.isPlain = true)
    (single : s.isOptional = false) (v : s.Val) :
    ∃ b more, encoded (s.tree v).chars = b :: more ∧ isBlank b = false ∧ b ≠ 0x5d ∧ b ≠ 0x6e := by
  have quoted : ∀ text : String, ∃ b more, encoded (Json.text text).chars = b :: more ∧
      isBlank b = false ∧ b ≠ 0x5d ∧ b ≠ 0x6e := by
    intro text
    have written := encoded_quotedChars text []
    rw [List.append_nil] at written
    exact ⟨_, _, written, by decide⟩
  rcases s with _ | _ | w | _ | item | inner | ⟨title, fields⟩ | names | ⟨title, tag, cases⟩
  · exact quoted v
  · rcases v with _ | _
    · exact ⟨0x66, encoded ['a', 'l', 's', 'e'], by decide, by decide⟩
    · exact ⟨0x74, encoded ['r', 'u', 'e'], by decide, by decide⟩
  · obtain ⟨b, more, hmore, hb⟩ := exists_encoded_integerChars (w.toInt v)
    have facts := facts_of_sign_or_digit hb
    exact ⟨b, more, hmore, facts.1, facts.2.2.2.2.2, facts.2.1⟩
  · simp [Shape.isPlain] at plain
  · refine ⟨0x5b, encoded (Json.itemChars (List.map item.tree v)), ?_, by decide⟩
    rw [Shape.tree, Json.chars, encoded_cons]
    rfl
  · simp [Shape.isOptional] at single
  · refine ⟨0x7b, encoded (Json.memberChars (fields.members v)), ?_, by decide⟩
    rw [Shape.tree, Json.chars, encoded_cons]
    rfl
  · exact quoted (names.get v)
  · simp [Shape.isPlain] at plain

/-- An optional value that is there begins as the value does, and one that is not begins with the
word for it. -/
theorem Shape.begins {s : Shape} (plain : s.isPlain = true) (v : s.Val) :
    Begins (s.tree v).chars := by
  have single : ∀ {s : Shape}, s.isPlain = true → s.isOptional = false → ∀ v : s.Val,
      Begins (s.tree v).chars := by
    intro s plain single v
    obtain ⟨b, more, hmore, blank, opens, -⟩ := exists_encoded_of_not_optional plain single v
    exact ⟨b, more, hmore, blank, opens⟩
  by_cases optional : s.isOptional = true
  · rcases s with _ | _ | _ | _ | _ | inner | _ | _ | _
    case optional =>
      rw [Shape.isPlain, Bool.and_eq_true, Bool.not_eq_true'] at plain
      rcases v with _ | v
      · have written : encoded Json.null.chars = 0x6e :: encoded ['u', 'l', 'l'] := by decide
        exact ⟨_, _, written, by decide⟩
      · exact single plain.1 plain.2 v
    all_goals simp [Shape.isOptional] at optional
  · exact single plain (by simpa using optional) v

/-! ## Parts -/

theorem readAs_ok {α : Type} {expected : String} {take : Json → Except Mismatch α}
    {bs rest : Octets} {value : Json} {x : α}
    (scalar : readScalar expected bs = .ok (value, rest))
    (taken : take value = .ok x) : readAs expected take bs = .ok (x, rest) := by
  simp only [readAs, scalar, taken]

/-- A list is read one level deeper, and the bracket behind its parts is the reader's to take. -/
theorem readParts_list {α : Type} {expected : String} {list : PartsReader α}
    {object : Option (PartsReader α)} {depth : Nat} {bs rest : Octets} {x : α}
    (parts : list depth bs = .ok (x, 0x5d :: rest)) :
    readParts expected (some list) object (depth + 1) (0x5b :: bs) = .ok (x, rest) := by
  have blank : skipBlanks (0x5b :: bs) = 0x5b :: bs := skipBlanks_cons (by decide) bs
  have close : readListEnd (0x5d :: rest) = .ok rest := by
    rw [readListEnd, skipBlanks_cons (by decide)]
    rfl
  simp only [readParts, blank, readListParts, parts, close, Except.map, placedInList,
    Except.mapError]

/-- An object closes with its members, so no bracket is left to take. -/
theorem readParts_object {α : Type} {expected : String} {list : Option (PartsReader α)}
    {object : PartsReader α} {depth : Nat} {bs rest : Octets} {x : α}
    (parts : object depth bs = .ok (x, rest)) :
    readParts expected list (some object) (depth + 1) (0x7b :: bs) = .ok (x, rest) := by
  have blank : skipBlanks (0x7b :: bs) = 0x7b :: bs := skipBlanks_cons (by decide) bs
  simp only [readParts, blank, readObjectParts, parts, placedInObject, Except.mapError]

/-- The members are read one after the other into the slots for the fields, and the value is made of
the slots when the object has been closed. -/
theorem readMembers_ok {fs : Fields} {member : String → fs.Slots → Octets → Outcome fs.Slots}
    {members : List (String × Json)} {slots : fs.Slots} {v : fs.Val}
    (leads : Leads member members fs.blank slots) (whole : fs.complete slots = .ok v)
    (rest : Octets) :
    readMembers fs member (encoded (Json.memberChars members) ++ rest) = .ok (v, rest) := by
  rw [readMembers, foldMembers_memberChars leads (length_lt_memberChars_append members rest)]
  simp only [whole, List.drop_succ_cons, List.drop_zero]

/-! ## Fields -/

/-- What is known of the fields of a record when all that is written of it has been read. -/
def Fields.filled : (fs : Fields) → fs.Val → fs.Slots
  | .nil, _ => ()
  | .cons _ need shape rest, (v, vs) =>
    (if need.leavesOut shape v then none else some v, rest.filled vs)

/-- What is left out is what an object without it is taken to hold. -/
theorem Need.whenUnnamed_of_leavesOut {need : Need} {s : Shape} {v : s.Val}
    (h : need.leavesOut s v = true) : need.whenUnnamed s = some v := by
  rcases s with _ | _ | _ | _ | item | inner | _ | _ | _
  case list =>
    simp only [Need.leavesOut, Bool.and_eq_true, decide_eq_true_eq] at h
    obtain ⟨rfl, empty⟩ := h
    rw [List.isEmpty_iff.mp empty]
    rfl
  case optional =>
    simp only [Need.leavesOut, Bool.and_eq_true, decide_eq_true_eq] at h
    obtain ⟨rfl, none⟩ := h
    rw [Option.isNone_iff_eq_none.mp none]
    rfl
  all_goals simp [Need.leavesOut] at h

/-- Slots that were filled from a value give the value back, since no field is left without. -/
theorem Fields.complete_filled (fs : Fields) (v : fs.Val) : fs.complete (fs.filled v) = .ok v := by
  induction fs using Fields.keys.induct with
  | case1 => rfl
  | case2 key need shape rest ih =>
    obtain ⟨v, vs⟩ := v
    have slot : (if need.leavesOut shape v then none else some v).or (need.whenUnnamed shape) =
        some v := by
      split
      · rename_i out
        rw [Option.none_or, Need.whenUnnamed_of_leavesOut out]
      · rfl
    rw [Fields.filled, Fields.complete]
    simp only [slot, ih vs]
    rfl

/-- The members written of a record bear names of its fields, which is how a name that is not in the
others is known not to be among their members. -/
theorem Fields.mem_keys_of_mem_members (fs : Fields) (v : fs.Val) :
    ∀ member ∈ fs.members v, member.1 ∈ fs.keys := by
  induction fs using Fields.keys.induct with
  | case1 => simp [Fields.members]
  | case2 key need shape rest ih =>
    obtain ⟨v, vs⟩ := v
    intro member hmem
    rw [Fields.members] at hmem
    rw [Fields.keys]
    split at hmem
    · exact List.mem_cons_of_mem _ (ih vs member hmem)
    · rcases List.mem_cons.mp hmem with rfl | hmem
      · exact List.mem_cons_self
      · exact List.mem_cons_of_mem _ (ih vs member hmem)

/-- Members that the first field does not name do not change what is known of it. -/
theorem leads_behind {name : String} {need : Need} {shape : Shape} {fs : Fields} {depth : Nat}
    {members : List (String × Json)} {slots last : fs.Slots}
    (apart : ∀ member ∈ members, member.1 ≠ name)
    (leads : Leads (fs.readMember depth) members slots last) (slot : Option shape.Val) :
    Leads ((Fields.cons name need shape fs).readMember depth) members (slot, slots)
      (slot, last) := by
  induction members generalizing slots with
  | nil => exact congrArg (slot, ·) leads
  | cons member members ih =>
    obtain ⟨key, value⟩ := member
    obtain ⟨next, step, leads⟩ := leads
    obtain ⟨other, apart⟩ := List.forall_mem_cons.mp apart
    refine ⟨(slot, next), ?_, ih apart leads⟩
    intro rest ends
    rw [Fields.readMember, if_neg other, step rest ends]
    rfl

/-! ## Shapes -/

section

variable {depth : Nat} {rest : Octets}

/-- A list is read back if its items are. Where an item begins matters, because a blank would be
skipped and a closing bracket would end the list. -/
theorem Shape.read_list {item : Shape} {values : List item.Val}
    (back : ∀ x ∈ values, ∀ rest, Ends rest →
      item.read depth (encoded (item.tree x).chars ++ rest) = .ok (x, rest))
    (begins : ∀ x ∈ values, Begins (item.tree x).chars) :
    (Shape.list item).read (depth + 1) (encoded ((Shape.list item).tree values).chars ++ rest) =
      .ok (values, rest) := by
  have opening : String.utf8EncodeChar '[' = [0x5b] := by decide
  have placed : ∀ x ∈ values, ∀ i rest, Ends rest →
      inside (.index i) (item.read depth (encoded (item.tree x).chars ++ rest)) =
        .ok (x, rest) := by
    intro x hx i rest ends
    rw [back x hx rest ends]
    rfl
  have enough := length_lt_itemChars_append (values.map item.tree) rest
  rw [List.length_map] at enough
  have written : (Shape.list item).tree values = .array (values.map item.tree) := rfl
  rw [written, Json.chars, encoded_cons, opening, Shape.read]
  exact readParts_list (readItems_itemChars placed begins enough rest)

/-- What is there is read back as being there. The word for nothing is what an inner shape that is
optional itself would also write, so that shape is excluded. -/
theorem Shape.read_some {inner : Shape} {v : inner.Val} (plain : inner.isPlain = true)
    (single : inner.isOptional = false)
    (read : inner.read depth (encoded (inner.tree v).chars ++ rest) = .ok (v, rest)) :
    (Shape.optional inner).read depth (encoded (inner.tree v).chars ++ rest) =
      .ok (some v, rest) := by
  obtain ⟨b, more, hmore, blank, -, something⟩ :=
    Shape.exists_encoded_of_not_optional plain single v
  rw [hmore, List.cons_append] at read ⊢
  rw [Shape.read, skipBlanks_cons blank]
  -- The reader takes an `n` for nothing without looking further.
  split
  · simp_all
  · rw [read]
    rfl

/-- A record is read from an object if the object's members lead to its fields. -/
theorem Shape.read_object {title : String} {fields : Fields} {v : fields.Val}
    {members : List (String × Json)} {slots : fields.Slots}
    (leads : Leads (fields.readMember depth) members fields.blank slots)
    (whole : fields.complete slots = .ok v) :
    (Shape.record title fields).read (depth + 1) (encoded (Json.object members).chars ++ rest) =
      .ok (v, rest) := by
  have opening : String.utf8EncodeChar '\x7b' = [0x7b] := by decide
  rw [Json.chars, encoded_cons, opening, Shape.read]
  exact readParts_object (readMembers_ok leads whole rest)

/-- A record is read back if its members lead from blank slots to the slots of the value. -/
theorem Shape.read_record {title : String} {fields : Fields} {v : fields.Val}
    (leads : Leads (fields.readMember depth) (fields.members v) fields.blank (fields.filled v)) :
    (Shape.record title fields).read (depth + 1)
      (encoded ((Shape.record title fields).tree v).chars ++ rest) = .ok (v, rest) := by
  have written : (Shape.record title fields).tree v = .object (fields.members v) := rfl
  rw [written]
  exact Shape.read_object leads (Fields.complete_filled fields v)

theorem Shape.read_choice {names : List String} (distinct : names.Nodup) (i : Fin names.length) :
    (Shape.choice names).read depth (encoded ((Shape.choice names).tree i).chars ++ rest) =
      .ok (i, rest) := by
  have named : readVariant names (encoded (quotedChars (names.get i)) ++ rest) = .ok (i, rest) :=
    readAs_ok (readScalar_text _ _ rest) (takeVariant_get distinct i)
  have written : ((Shape.choice names).tree i).chars = quotedChars (names.get i) := rfl
  rw [written, Shape.read]
  rw [encoded_quotedChars] at named ⊢
  rw [readChoice, skipBlanks_cons (by decide)]
  exact named

/-- The first field takes the member with its name, as long as it has not had one before. -/
theorem Fields.readMember_cons {key : String} {need : Need} {shape : Shape} {fields : Fields}
    {bs : Octets} {v : shape.Val} (slots : fields.Slots)
    (read : shape.read depth bs = .ok (v, rest)) :
    (Fields.cons key need shape fields).readMember depth key (none, slots) (0x3a :: bs) =
      .ok ((some v, slots), rest) := by
  rw [Fields.readMember, if_pos rfl]
  simp only [Option.isSome_none, Bool.false_eq_true, if_false, readColon_cons, read]
  rfl

end

mutual

/-- A value is read back, whatever may follow it. -/
theorem Shape.read_chars_tree (s : Shape) (plain : s.isPlain = true) (depth : Nat)
    (deep : s.height ≤ depth) (v : s.Val) (rest : Octets) (ends : Ends rest) :
    s.read depth (encoded (s.tree v).chars ++ rest) = .ok (v, rest) :=
  match s with
  | .text => readAs_ok (readScalar_text _ v rest) rfl
  | .flag => readAs_ok (readScalar_bool _ v rest) rfl
  | .word w => readAs_ok (readScalar_integer (isWord_toInt w v) _ ends) (take_toInt w v)
  | .instant => by simp [Shape.isPlain] at plain
  | .list item => by
    rw [Shape.isPlain] at plain
    rw [Shape.height] at deep
    obtain ⟨depth, rfl⟩ := Nat.exists_eq_add_of_lt deep
    -- The level of the list is spent, and what is left suffices for its items.
    refine Shape.read_list ?_ fun x _ => Shape.begins plain x
    intro x _ rest ends
    exact Shape.read_chars_tree item plain _ (by omega) x rest ends
  | .optional inner => by
    rw [Shape.isPlain, Bool.and_eq_true, Bool.not_eq_true'] at plain
    rw [Shape.height] at deep
    -- Nothing is written as null, and a value as itself: the first letter tells them apart.
    rcases v with _ | v
    · have written : encoded Json.null.chars = 0x6e :: nullTail := by decide
      rw [Shape.tree, written, List.cons_append, Shape.read, skipBlanks_cons (by decide)]
      rfl
    · exact Shape.read_some plain.1 plain.2
        (Shape.read_chars_tree inner plain.1 depth deep v rest ends)
  | .record title fields => by
    rw [Shape.isPlain] at plain
    rw [Shape.height] at deep
    obtain ⟨depth, rfl⟩ := Nat.exists_eq_add_of_lt deep
    exact Shape.read_record (Fields.leads_members fields plain _ (by omega) v)
  | .choice names => by
    rw [Shape.isPlain, decide_eq_true_eq] at plain
    exact Shape.read_choice plain v
  | .tagged title tag cases => by simp [Shape.isPlain] at plain

/-- The members written of a record lead to its fields. -/
theorem Fields.leads_members (fs : Fields) (plain : fs.isPlain = true) (depth : Nat)
    (deep : fs.height ≤ depth) (v : fs.Val) :
    Leads (fs.readMember depth) (fs.members v) fs.blank (fs.filled v) :=
  match fs with
  | .nil => rfl
  | .cons key need shape fields => by
    obtain ⟨v, vs⟩ := v
    rw [Fields.isPlain, Bool.and_eq_true, Bool.and_eq_true, Bool.not_eq_true'] at plain
    obtain ⟨⟨unnamed, plain⟩, others⟩ := plain
    rw [Fields.height] at deep
    have apart : ∀ member ∈ fields.members vs, member.1 ≠ key := by
      rintro member hmem rfl
      have := Fields.mem_keys_of_mem_members fields vs member hmem
      simp_all
    have leads := Fields.leads_members fields others depth (by omega) vs
    rw [Fields.members, Fields.filled, Fields.blank]
    -- A field that is left out stays unknown, and `complete` puts the empty value in its place.
    by_cases out : need.leavesOut shape v = true
    · rw [if_pos out, if_pos out]
      exact leads_behind apart leads none
    · rw [if_neg out, if_neg out]
      refine ⟨(some v, fields.blank), ?_, leads_behind apart leads (some v)⟩
      intro rest ends
      exact Fields.readMember_cons _
        (Shape.read_chars_tree shape plain depth (by omega) v rest ends)

end

/-- A value that is read with nothing behind it is the one that the document holds. -/
theorem Shape.ofDocument_octets_compact {s : Shape} {tree : Json} {v : s.Val}
    (read : s.read maxDepth (encoded tree.chars ++ []) = .ok (v, [])) :
    s.ofDocument (Text.octets tree.compact) = .ok v := by
  rw [List.append_nil] at read
  rw [Json.compact, Text.octets_ofList, Shape.ofDocument, readWhole, read]
  rfl

/-- The document written of a value is read as that value. -/
theorem Shape.ofDocument_octets_write {s : Shape} (plain : s.isPlain = true)
    (deep : s.height ≤ maxDepth) (v : s.Val) : s.ofDocument (Text.octets (s.write v)) = .ok v :=
  Shape.ofDocument_octets_compact (s.read_chars_tree plain maxDepth deep v [] ends_nil)

end SchemaRegistry.Json
