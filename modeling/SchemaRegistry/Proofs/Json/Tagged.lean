import SchemaRegistry.Proofs.Json.Shape
/-!
# Tagged records are read back

A tagged record is read in two passes. The first goes over the document and keeps whatever stands
beside the tag as a tree, since the tag may come last; the second takes the fields of the tagged
case out of that tree. So the way back has two parts of its own. `IsRead` says that a tree is read
as it was written, and holds of the tree of every plain value; and from the tree of a plain value
the value is taken (`Shape.take_tree`). A tag tells the cases apart as long as no two have one name,
and no field has the name of the tag itself.
-/

set_option autoImplicit false

namespace SchemaRegistry.Json

open Text (encoded encoded_cons)

/-! ## Trees -/

/-- Whether a tree is read as it is written, whatever may follow it. -/
def IsRead (depth : Nat) (v : Json) : Prop :=
  ∀ rest, Ends rest → readTree depth (encoded v.chars ++ rest) = .ok (v, rest)

section

variable {depth : Nat}

/-- What opens neither a list nor an object is read as a scalar. -/
theorem readTree_scalar {b : UInt8} {rest : Octets} (blank : isBlank b = false) (list : b ≠ 0x5b)
    (object : b ≠ 0x7b) : readTree depth (b :: rest) = readScalar "" (b :: rest) := by
  rw [readTree.eq_def, skipBlanks_cons blank]
  split <;> simp_all

/-- A text is read whatever may follow it, since it says itself where it ends. -/
theorem isRead_text (s : String) : IsRead depth (.text s) := by
  intro rest _
  have read := readScalar_text "" s rest
  rw [encoded_quotedChars] at read
  rw [Json.chars, encoded_quotedChars, readTree_scalar (by decide) (by decide) (by decide), read]

theorem isRead_bool (b : Bool) : IsRead depth (.bool b) := by
  intro rest _
  rw [← readScalar_bool "" b rest]
  rcases b with _ | _
  · have written : encoded (Json.bool false).chars = 0x66 :: encoded ['a', 'l', 's', 'e'] := by
      decide
    rw [written]
    exact readTree_scalar (by decide) (by decide) (by decide)
  · have written : encoded (Json.bool true).chars = 0x74 :: encoded ['r', 'u', 'e'] := by decide
    rw [written]
    exact readTree_scalar (by decide) (by decide) (by decide)

theorem isRead_null : IsRead depth .null := by
  intro rest _
  have written : encoded Json.null.chars = 0x6e :: nullTail := by decide
  rw [written, List.cons_append, readTree_scalar (by decide) (by decide) (by decide)]
  rfl

/-- A numeral is read in front of what may follow a value, and `IsRead` asks for no more. -/
theorem isRead_integer {n : Int} (word : IsWord n) : IsRead depth (.number (.integer n)) := by
  intro rest ends
  obtain ⟨b, more, hmore, hb⟩ := exists_encoded_integerChars n
  have bracket : ∀ c : UInt8, ¬ (c = 0x2d ∨ (digit? c).isSome = true) → b ≠ c := by
    rintro c hc rfl
    exact hc hb
  have read := readScalar_integer word "" ends
  change readTree depth (encoded (integerChars n) ++ rest) = _
  rw [hmore, List.cons_append] at read ⊢
  rw [readTree_scalar (facts_of_sign_or_digit hb).1 (bracket _ (by decide)) (bracket _ (by decide)),
    read]

/-- A list is read one level deeper than its items. -/
theorem isRead_array {items : List Json} (read : ∀ item ∈ items, IsRead depth item)
    (begins : ∀ item ∈ items, Begins item.chars) : IsRead (depth + 1) (.array items) := by
  intro rest _
  have opening : String.utf8EncodeChar '[' = [0x5b] := by decide
  have enough := length_lt_itemChars_append items rest
  have back : readItems (fun _ => readTree depth) _ 0
      (encoded (Json.itemChars (items.map id)) ++ rest) = .ok (items, 0x5d :: rest) :=
    readItems_itemChars (fun item hitem _ rest ends => read item hitem rest ends) begins enough rest
  rw [List.map_id] at back
  rw [Json.chars, encoded_cons, opening]
  simp only [List.cons_append, List.nil_append]
  rw [readTree, skipBlanks_cons (by decide)]
  simp only [back, List.drop_succ_cons, List.drop_zero]

/-! ## Members that are put one behind the other -/

/-- A step that puts every member behind what there is leads to all of them, in order. -/
theorem leads_foldl {σ : Type} {step : String → σ → Octets → Outcome σ}
    (push : σ → String × Json → σ) {members : List (String × Json)}
    (pushes : ∀ member ∈ members, ∀ state rest, Ends rest →
      step member.1 state (0x3a :: (encoded member.2.chars ++ rest)) =
        .ok (push state member, rest))
    (state : σ) : Leads step members state (members.foldl push state) := by
  induction members generalizing state with
  | nil => rfl
  | cons member members ih =>
    obtain ⟨first, others⟩ := List.forall_mem_cons.mp pushes
    exact ⟨push state member, first state, ih others _⟩

/-- A member of an object that is read as a tree. -/
def readTreeMember (depth : Nat) (key : String) (members : List (String × Json)) (bs : Octets) :
    Outcome (List (String × Json)) :=
  match readColon bs with
  | .error stop => .error stop
  | .ok rest =>
    match readTree depth rest with
    | .error stop => .error stop
    | .ok (value, rest) => .ok (members ++ [(key, value)], rest)

/-- To read an object is to collect its members, each name with the last value that it was given. -/
theorem readTree_object (depth : Nat) (rest : Octets) :
    readTree (depth + 1) (0x7b :: rest) =
      match foldMembers (readTreeMember depth) (rest.length + 1) true [] rest with
      | .error stop => .error stop
      | .ok (members, rest) => .ok (.object members, rest.drop 1) := by
  rw [readTree, skipBlanks_cons (by decide)]
  rfl

/-- An object is read one level deeper than its values. Its members come back in the order in which
they were written. -/
theorem isRead_object {members : List (String × Json)}
    (read : ∀ member ∈ members, IsRead depth member.2) : IsRead (depth + 1) (.object members) := by
  intro rest _
  have opening : String.utf8EncodeChar '\x7b' = [0x7b] := by decide
  have leads :
      Leads (readTreeMember depth) members [] (members.foldl (fun ms m => ms ++ [m]) []) := by
    apply leads_foldl
    intro member hmember state rest ends
    simp only [readTreeMember, readColon_cons, read member hmember rest ends]
  have all : members.foldl (fun ms m => ms ++ [m]) [] = members := by
    simp [← List.flatMap_def]
  rw [all] at leads
  have back := foldMembers_memberChars leads (length_lt_memberChars_append members rest) rest
  rw [Json.chars, encoded_cons, opening]
  simp only [List.cons_append, List.nil_append]
  rw [readTree_object]
  simp only [back, List.drop_succ_cons, List.drop_zero]

end

mutual

/-- The tree of a plain value is read as it is written. -/
theorem Shape.isRead_tree (s : Shape) (plain : s.isPlain = true) (depth : Nat)
    (deep : s.height ≤ depth) (v : s.Val) : IsRead depth (s.tree v) :=
  match s with
  | .text => isRead_text v
  | .flag => isRead_bool v
  | .word w => isRead_integer (isWord_toInt w v)
  | .instant => by simp [Shape.isPlain] at plain
  | .list item => by
    rw [Shape.isPlain] at plain
    rw [Shape.height] at deep
    obtain ⟨depth, rfl⟩ := Nat.exists_eq_add_of_lt deep
    change IsRead _ (.array (List.map item.tree v))
    refine isRead_array ?_ ?_
    · intro tree htree
      obtain ⟨x, -, rfl⟩ := List.mem_map.mp htree
      exact Shape.isRead_tree item plain _ (by omega) x
    · intro tree htree
      obtain ⟨x, -, rfl⟩ := List.mem_map.mp htree
      exact Shape.begins plain x
  | .optional inner => by
    rw [Shape.isPlain, Bool.and_eq_true] at plain
    rw [Shape.height] at deep
    rcases v with _ | v
    · exact isRead_null
    · exact Shape.isRead_tree inner plain.1 depth deep v
  | .record title fields => by
    rw [Shape.isPlain] at plain
    rw [Shape.height] at deep
    obtain ⟨depth, rfl⟩ := Nat.exists_eq_add_of_lt deep
    exact isRead_object (Fields.isRead_members fields plain _ (by omega) v)
  | .choice names => isRead_text (names.get v)
  | .tagged title tag cases => by simp [Shape.isPlain] at plain

/-- Whatever a plain record writes is read as a tree, so it survives the first of the two passes. -/
theorem Fields.isRead_members (fs : Fields) (plain : fs.isPlain = true) (depth : Nat)
    (deep : fs.height ≤ depth) (v : fs.Val) : ∀ member ∈ fs.members v, IsRead depth member.2 :=
  match fs with
  | .nil => by simp [Fields.members]
  | .cons key need shape fields => by
    obtain ⟨v, vs⟩ := v
    rw [Fields.isPlain, Bool.and_eq_true, Bool.and_eq_true] at plain
    rw [Fields.height] at deep
    have others := Fields.isRead_members fields plain.2 depth (by omega) vs
    rw [Fields.members]
    split
    · exact others
    · rw [List.forall_mem_cons]
      exact ⟨Shape.isRead_tree shape plain.1.2 depth (by omega) v, others⟩

end

/-! ## From trees to values -/

theorem mapM_map_eq_ok {α β ε : Type} {f : β → Except ε α} {g : α → β} {xs : List α}
    (h : ∀ x ∈ xs, f (g x) = .ok x) : (xs.map g).mapM f = .ok xs := by
  induction xs with
  | nil => rfl
  | cons x xs ih =>
    obtain ⟨first, others⟩ := List.forall_mem_cons.mp h
    rw [List.map_cons, List.mapM_cons, first, ih others]
    rfl

/-- Only nothing is written as nothing. -/
theorem Shape.tree_ne_null {s : Shape} (plain : s.isPlain = true) (single : s.isOptional = false)
    (v : s.Val) : s.tree v ≠ .null := by
  rcases s with _ | _ | _ | _ | _ | _ | _ | _ | _
  case optional => simp [Shape.isOptional] at single
  case tagged => simp [Shape.isPlain] at plain
  all_goals
    rw [Shape.tree.eq_def]
    exact Json.noConfusion

theorem Shape.take_optional (inner : Shape) {v : Json} (something : v ≠ .null) :
    (Shape.optional inner).take v = (inner.take v).map some := by
  cases v with
  | null => contradiction
  | _ => rfl

/-- The members of an object, taken one after the other. -/
def Fields.takeMembers (fs : Fields) (members : List (String × Json)) (slots : fs.Slots) :
    Except Mismatch fs.Slots :=
  members.foldlM (fun slots (key, v) => fs.takeMember key v slots) slots

/-- Members are taken in their order, each into the slots that those in front of it have left. -/
theorem Fields.takeMembers_cons {fs : Fields} {key : String} {value : Json}
    {members : List (String × Json)} {slots next : fs.Slots}
    (taken : fs.takeMember key value slots = .ok next) :
    fs.takeMembers ((key, value) :: members) slots = fs.takeMembers members next := by
  change (fs.takeMember key value slots).bind (fs.takeMembers members) = _
  rw [taken]
  rfl

theorem Fields.exists_of_takeMembers_cons {fs : Fields} {key : String} {value : Json}
    {members : List (String × Json)} {slots last : fs.Slots}
    (taken : fs.takeMembers ((key, value) :: members) slots = .ok last) :
    ∃ next, fs.takeMember key value slots = .ok next ∧ fs.takeMembers members next = .ok last := by
  change (fs.takeMember key value slots).bind (fs.takeMembers members) = _ at taken
  rcases step : fs.takeMember key value slots with m | next
  · rw [step] at taken
    cases taken
  · rw [step] at taken
    exact ⟨next, rfl, taken⟩

theorem takeBody_object {fs : Fields} {title : String} {items : List Json → Except Mismatch fs.Val}
    {members : List (String × Json)} {v : fs.Val}
    (taken : fs.takeMembers members fs.blank = .ok (fs.filled v)) :
    takeBody fs title items fs.takeMember (.object members) = .ok v := by
  rw [Fields.takeMembers] at taken
  simp only [takeBody, taken, Fields.complete_filled]

/-- Members that the first field does not name do not change what is taken of it. -/
theorem takeMembers_behind {name : String} {need : Need} {shape : Shape} {fs : Fields}
    {members : List (String × Json)} {slots last : fs.Slots}
    (apart : ∀ member ∈ members, member.1 ≠ name)
    (taken : fs.takeMembers members slots = .ok last) (slot : Option shape.Val) :
    (Fields.cons name need shape fs).takeMembers members (slot, slots) = .ok (slot, last) := by
  induction members generalizing slots with
  | nil =>
    obtain rfl : slots = last := Except.ok.inj taken
    rfl
  | cons member members ih =>
    obtain ⟨key, value⟩ := member
    obtain ⟨other, apart⟩ := List.forall_mem_cons.mp apart
    obtain ⟨next, step, taken⟩ := Fields.exists_of_takeMembers_cons taken
    have behind : (Fields.cons name need shape fs).takeMember key value (slot, slots) =
        .ok (slot, next) := by
      rw [Fields.takeMember, if_neg other, step]
      rfl
    exact (Fields.takeMembers_cons behind).trans (ih apart taken)

mutual

/-- From the tree of a plain value the value is taken. -/
theorem Shape.take_tree (s : Shape) (plain : s.isPlain = true) (v : s.Val) :
    s.take (s.tree v) = .ok v :=
  match s with
  | .text => rfl
  | .flag => rfl
  | .word w => take_toInt w v
  | .instant => by simp [Shape.isPlain] at plain
  | .list item => by
    rw [Shape.isPlain] at plain
    have written : (Shape.list item).tree v = .array (List.map item.tree v) := rfl
    rw [written, Shape.take.eq_def]
    exact mapM_map_eq_ok fun x _ => Shape.take_tree item plain x
  | .optional inner => by
    rw [Shape.isPlain, Bool.and_eq_true, Bool.not_eq_true'] at plain
    rcases v with _ | v
    · rfl
    · have something := Shape.tree_ne_null plain.1 plain.2 v
      have written : (Shape.optional inner).tree (some v) = inner.tree v := rfl
      have taken := Shape.take_tree inner plain.1 v
      rw [written, Shape.take_optional inner something, taken]
      rfl
  | .record title fields => by
    rw [Shape.isPlain] at plain
    have written : (Shape.record title fields).tree v = .object (fields.members v) := rfl
    rw [written, Shape.take.eq_def]
    exact takeBody_object (Fields.takeMembers_members fields plain v)
  | .choice names => by
    rw [Shape.isPlain, decide_eq_true_eq] at plain
    have written : (Shape.choice names).tree v = .text (names.get v) := rfl
    rw [written, Shape.take.eq_def]
    exact takeVariant_get plain v
  | .tagged title tag cases => by simp [Shape.isPlain] at plain

/-- **The second pass takes from the tree of a record what was written of it**, by induction on its
fields. The members of later fields do not touch the slot of the first, since no name comes twice.
-/
theorem Fields.takeMembers_members (fs : Fields) (plain : fs.isPlain = true) (v : fs.Val) :
    fs.takeMembers (fs.members v) fs.blank = .ok (fs.filled v) :=
  match fs with
  | .nil => rfl
  | .cons key need shape fields => by
    obtain ⟨v, vs⟩ := v
    rw [Fields.isPlain, Bool.and_eq_true, Bool.and_eq_true, Bool.not_eq_true'] at plain
    obtain ⟨⟨unnamed, plain⟩, others⟩ := plain
    have apart : ∀ member ∈ fields.members vs, member.1 ≠ key := by
      rintro member hmem rfl
      have := Fields.mem_keys_of_mem_members fields vs member hmem
      simp_all
    have taken := Fields.takeMembers_members fields others vs
    rw [Fields.members, Fields.filled, Fields.blank]
    -- A field that is left out stays unknown, as it does when the document itself is read.
    by_cases out : need.leavesOut shape v = true
    · rw [if_pos out, if_pos out]
      exact takeMembers_behind apart taken none
    · have first : (Fields.cons key need shape fields).takeMember key (shape.tree v)
          (none, fields.blank) = .ok (some v, fields.blank) := by
        rw [Fields.takeMember, if_pos rfl, Shape.take_tree shape plain v]
        rfl
      rw [if_neg out, if_neg out]
      exact (Fields.takeMembers_cons first).trans (takeMembers_behind apart taken (some v))

end

/-! ## Tagged records -/

/-- Whether the tag tells the cases apart, and no field is mistaken for the tag. -/
def Cases.isPlain (tag : String) : Cases → Bool
  | .nil => true
  | .cons name _ fields rest =>
    !rest.names.contains name && !fields.keys.contains tag && fields.isPlain && rest.isPlain tag

/-- How deep lists and objects are nested in the fields of any case. -/
def Cases.height : Cases → Nat
  | .nil => 0
  | .cons _ _ fields rest => max fields.height rest.height

/-- Cases that are plain have names of their own, so the tag tells them apart. -/
theorem Cases.nodup_names {tag : String} {cs : Cases} (plain : cs.isPlain tag = true) :
    cs.names.Nodup := by
  induction cs using Cases.names.induct with
  | case1 => exact List.nodup_nil
  | case2 name title fields rest ih =>
    simp only [Cases.isPlain, Bool.and_eq_true, Bool.not_eq_true', List.contains_eq_mem,
      decide_eq_false_iff_not] at plain
    exact List.nodup_cons.mpr ⟨plain.1.1.1, ih plain.2⟩

/-- A value of a tagged record is one of a case: it is written as the name of the case in front of
the case's own members, and taken from these members by that name. -/
theorem Cases.exists_case {tag : String} {cs : Cases} (plain : cs.isPlain tag = true) (v : cs.Val) :
    ∃ name ∈ cs.names, ∃ (fields : Fields) (w : fields.Val),
      fields.isPlain = true ∧ tag ∉ fields.keys ∧ fields.height ≤ cs.height ∧
      cs.tree tag v = .object ((tag, .text name) :: fields.members w) ∧
      cs.take name (.object (fields.members w)) = .ok v := by
  induction cs using Cases.names.induct with
  | case1 => exact nomatch v
  | case2 name title fields rest ih =>
    simp only [Cases.isPlain, Bool.and_eq_true, Bool.not_eq_true', List.contains_eq_mem,
      decide_eq_false_iff_not] at plain
    obtain ⟨⟨⟨unnamed, untagged⟩, plain⟩, others⟩ := plain
    rcases v with w | v
    · refine ⟨name, List.mem_cons_self, fields, w, plain, untagged, Nat.le_max_left _ _, rfl, ?_⟩
      rw [Cases.take, if_pos rfl, takeBody_object (Fields.takeMembers_members fields plain w)]
      rfl
    · obtain ⟨other, hother, fields', w, plain', untagged', low, tree, taken⟩ := ih others v
      have apart : other ≠ name := by
        rintro rfl
        exact unnamed hother
      refine ⟨other, List.mem_cons_of_mem _ hother, fields', w, plain', untagged',
        Nat.le_trans low (Nat.le_max_right _ _), tree, ?_⟩
      rw [Cases.take, if_neg apart, taken]
      rfl

section

variable {title tag : String} {cases : Cases}

/-- The tree of a tagged record is read as it is written. -/
theorem Shape.isRead_tagged (plain : cases.isPlain tag = true) {depth : Nat}
    (deep : cases.height ≤ depth) (v : (Shape.tagged title tag cases).Val) :
    IsRead (depth + 1) ((Shape.tagged title tag cases).tree v) := by
  obtain ⟨name, -, fields, w, plain, -, low, tree, -⟩ := Cases.exists_case plain v
  have written : (Shape.tagged title tag cases).tree v = cases.tree tag v := rfl
  rw [written, tree]
  refine isRead_object ?_
  rw [List.forall_mem_cons]
  exact ⟨isRead_text name, Fields.isRead_members fields plain depth (Nat.le_trans low deep) w⟩

/-- The members of a tagged record lead to the tag and the trees of the others. -/
theorem leads_tagged {names : List String} (distinct : names.Nodup) {name : String}
    (hname : name ∈ names) {members : List (String × Json)} {depth : Nat}
    (apart : ∀ member ∈ members, member.1 ≠ tag)
    (read : ∀ member ∈ members, IsRead depth member.2) :
    Leads (readTaggedMember tag names depth) ((tag, .text name) :: members) {}
      { tag := some name, members } := by
  -- The members behind the tag are collected as they are; the tag is none of them.
  have behind : Leads (readTaggedMember tag names depth) members { tag := some name }
      (members.foldl (fun state member => { state with members := state.members ++ [member] })
        { tag := some name }) := by
    apply leads_foldl
    intro member hmember state rest ends
    rw [readTaggedMember, if_neg (apart member hmember)]
    simp only [readColon_cons, read member hmember rest ends]
    rfl
  have all (state : Tagged) : members.foldl
      (fun state member => { state with members := state.members ++ [member] }) state =
        { state with members := state.members ++ members } := by
    clear apart read behind
    induction members generalizing state with
    | nil => simp
    | cons member members ih => simp [ih]
  rw [all] at behind
  refine ⟨{ tag := some name }, ?_, behind⟩
  intro rest _
  obtain ⟨i, rfl⟩ := List.mem_iff_get.mp hname
  have tagRead : readVariant names (encoded (quotedChars (names.get i)) ++ rest) = .ok (i, rest) :=
    readAs_ok (readScalar_text _ _ rest) (takeVariant_get distinct i)
  rw [readTaggedMember, if_pos rfl]
  simp only [Option.isSome_none, Bool.false_eq_true, if_false, readColon_cons, readTag, Json.chars,
    tagRead]
  rfl

/-- A tagged record is read back, whatever may follow it. -/
theorem Shape.read_tagged (plain : cases.isPlain tag = true) {depth : Nat}
    (deep : cases.height ≤ depth) (v : (Shape.tagged title tag cases).Val) (rest : Octets) :
    (Shape.tagged title tag cases).read (depth + 1)
      (encoded ((Shape.tagged title tag cases).tree v).chars ++ rest) = .ok (v, rest) := by
  obtain ⟨name, hname, fields, w, hplain, untagged, low, tree, taken⟩ := Cases.exists_case plain v
  have opening : String.utf8EncodeChar '\x7b' = [0x7b] := by decide
  have apart : ∀ member ∈ fields.members w, member.1 ≠ tag := by
    rintro member hmember rfl
    exact untagged (Fields.mem_keys_of_mem_members fields w member hmember)
  have leads := leads_tagged (Cases.nodup_names plain) hname apart
    (Fields.isRead_members fields hplain depth (Nat.le_trans low deep) w)
  generalize hmembers : (tag, Json.text name) :: fields.members w = members at leads tree
  have enough := length_lt_memberChars_append members rest
  have body : readTaggedObject tag cases.names depth (encoded (Json.memberChars members) ++ rest) =
      .ok ((name, .object (fields.members w)), rest) := by
    rw [readTaggedObject, foldMembers_memberChars leads enough]
    rfl
  have written : (Shape.tagged title tag cases).tree v = cases.tree tag v := rfl
  rw [written, tree, Json.chars, encoded_cons, opening]
  change readTagged title tag cases.names cases.take (depth + 1) _ = _
  simp only [readTagged, List.cons_append, List.nil_append, readParts_object body, taken]
  rfl

/-- The document written of a tagged record is read as that record, and as its tree. -/
theorem Shape.ofDocument_octets_write_tagged (plain : cases.isPlain tag = true)
    (deep : cases.height < maxDepth) (v : (Shape.tagged title tag cases).Val) :
    (Shape.tagged title tag cases).ofDocument
        (Text.octets ((Shape.tagged title tag cases).write v)) = .ok v ∧
      parse (Text.octets ((Shape.tagged title tag cases).write v)) =
        .ok ((Shape.tagged title tag cases).tree v) := by
  have low : cases.height ≤ maxDepth - 1 := by omega
  refine ⟨Shape.ofDocument_octets_compact (Shape.read_tagged plain low v []), ?_⟩
  have tree := Shape.isRead_tagged plain low v [] ends_nil
  have depth : maxDepth - 1 + 1 = maxDepth := rfl
  rw [List.append_nil, depth] at tree
  rw [Shape.write, Json.compact, Text.octets_ofList, parse, readWhole, tree]
  rfl

end

end SchemaRegistry.Json
