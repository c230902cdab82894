import SchemaRegistry.Proofs.Json.Tagged
/-!
# Objects with members that nobody asks for

A record is read from an object that may say more than the record holds. A member of an unknown name
is passed over by a reader of its own, which looks at less than the reader of values does and may
end somewhere else. For what is written of texts and whole numbers it ends where the value ends, and
then the members can stand in any order and with others between them: as long as no name comes
twice, and every field either has its member or is one that may be left out, the object is read as
the record.
-/

set_option autoImplicit false

namespace SchemaRegistry.Json

open Text (encoded encoded_cons)

/-! ## Passing over scalars -/

/-- A text that is read is passed over up to the same place. -/
theorem skipText_of_readTextOctets {taken bs content rest : Octets}
    (h : readTextOctets taken bs = .ok (content, rest)) : skipText bs = .ok rest := by
  fun_induction readTextOctets taken bs
  case case2 =>
    obtain ⟨-, rfl⟩ := Prod.mk.inj (Except.ok.inj h)
    rfl
  case case9 leading _ _ _ _ _ _ _ _ trailing _ ih =>
    -- Two surrogates are read together and passed over one by one.
    rw [skipText, leading, Option.isSome_some, if_pos rfl, skipText, trailing, Option.isSome_some,
      if_pos rfl, ih h]
  case case14 number _ _ ih =>
    rw [skipText, number, Option.isSome_some, if_pos rfl, ih h]
  case case16 long short _ letter ih =>
    rw [skipText, letter, Option.isSome_some, if_pos rfl, ih h]
    · exact long
    · exact short
  case case19 printable ih =>
    rw [skipText, if_neg printable, ih h]
    all_goals assumption
  all_goals simp [stopBehind] at h

/-- A text that is passed over ends at the same mark as one that is read. -/
theorem skipText_quoted (s : String) (rest : Octets) :
    skipText (encoded (s.toList.flatMap quotedChar) ++ 0x22 :: rest) = .ok rest :=
  skipText_of_readTextOctets (readTextOctets_quoted s.toList [] rest)

/-- Digits are passed over to their end, however great the number is. -/
theorem passDigits_append {cs : List Char} (digits : ∀ c ∈ cs, c.isDigit = true) {rest : Octets}
    (stops : startsWithDigit rest = false) (count : Nat) :
    passDigits count (encoded cs ++ rest) = (count + cs.length, rest) := by
  induction cs generalizing count with
  | nil =>
    rcases rest with _ | ⟨b, rest⟩
    · rfl
    · rw [startsWithDigit] at stops
      simp [passDigits, stops]
  | cons c cs ih =>
    obtain ⟨first, others⟩ := List.forall_mem_cons.mp digits
    obtain ⟨written, hdigit, -⟩ := digit?_of_isDigit first
    rw [encoded_cons, written, List.singleton_append, List.cons_append, passDigits, hdigit,
      Option.isSome_some, if_pos rfl, ih others, List.length_cons]
    congr 1
    omega

theorem skipAfterWhole_of_ends {rest : Octets} (h : Ends rest) :
    (match rest with
      | 0x2e :: more => skipFraction more
      | 0x65 :: more | 0x45 :: more => skipExponent more
      | _ => (pure rest : Except Stop Octets)) = .ok rest := by
  rcases rest with _ | ⟨b, rest⟩
  · rfl
  · rcases ends_cons.mp h with rfl | rfl | rfl <;> rfl

theorem skipUnsigned_toDigits (n : Nat) {rest : Octets} (h : Ends rest) :
    skipUnsigned (encoded (Nat.toDigits 10 n) ++ rest) = .ok rest := by
  have stops := startsWithDigit_of_ends h
  by_cases positive : 0 < n
  · obtain ⟨c, cs, hcs, hdigit, digits, hc⟩ := exists_toDigits positive
    obtain ⟨written, hread, -⟩ := digit?_of_isDigit hdigit
    obtain ⟨d, hd⟩ := Nat.exists_eq_succ_of_ne_zero hc
    rw [hcs, encoded_cons, written, List.singleton_append, List.cons_append, skipUnsigned, hread,
      hd]
    simp only [passDigits_append digits stops]
    exact skipAfterWhole_of_ends h
  · obtain rfl : n = 0 := by omega
    have zero : encoded (Nat.toDigits 10 0) = [0x30] := by decide
    have digit : digit? 0x30 = some 0 := by decide
    rw [zero, List.singleton_append, skipUnsigned]
    simp only [digit, stops]
    exact skipAfterWhole_of_ends h

/-- A numeral that is passed over ends where it would if it were read. -/
theorem skipNumeral_integerChars (n : Int) {rest : Octets} (h : Ends rest) :
    skipNumeral (encoded (integerChars n) ++ rest) = .ok rest := by
  by_cases negative : n < 0
  · have sign : String.utf8EncodeChar '-' = [0x2d] := by decide
    rw [integerChars, if_pos negative, List.singleton_append, encoded_cons, sign,
      List.singleton_append, List.cons_append, skipNumeral, skipUnsigned_toDigits _ h]
  · obtain ⟨b, more, d, hmore, digit⟩ := exists_encoded_toDigits n.natAbs
    have unsigned : skipNumeral (b :: (more ++ rest)) = skipUnsigned (b :: (more ++ rest)) := by
      rw [skipNumeral.eq_def]
      split
      · rename_i minus
        obtain rfl : b = 0x2d := (List.cons.inj minus).1
        simp [digit?] at digit
      · rfl
    rw [integerChars, if_neg negative, List.nil_append, hmore, List.cons_append, unsigned,
      ← List.cons_append, ← hmore, skipUnsigned_toDigits _ h]

/-- Whether what is written of a value can be passed over, in front of whatever may follow it. -/
def IsSkipped (value : Json) : Prop :=
  ∀ rest, Ends rest → skipValue (encoded value.chars ++ rest) = .ok rest

theorem isSkipped_text (s : String) : IsSkipped (.text s) := by
  intro rest _
  have written : (Json.text s).chars = quotedChars s := rfl
  rw [written, encoded_quotedChars, skipValue, skipSteps, skipBlanks_cons (by decide)]
  simp [skipText_quoted]

theorem isSkipped_integer (n : Int) : IsSkipped (.number (.integer n)) := by
  intro rest ends
  obtain ⟨b, more, hmore, hb⟩ := exists_encoded_integerChars n
  have skipped := skipNumeral_integerChars n ends
  have first := facts_of_sign_or_digit hb
  have written : (Json.number (.integer n)).chars = integerChars n := rfl
  rw [hmore, List.cons_append] at skipped
  rw [written, hmore, List.cons_append, skipValue, skipSteps, skipBlanks_cons first.1]
  simp [first, hb, skipped]

/-! ## Members in any order -/

/-- Whether a member says what the record has in the field of that name. One that no field has the
name of is passed over. -/
def Fields.Admits : (fs : Fields) → fs.Val → String → Json → Prop
  | .nil, _, _, value => IsSkipped value
  | .cons name _ shape rest, (v, vs), key, value =>
    if key = name then value = shape.tree v else rest.Admits vs key value

/-- Whether every field has its name among some, or is one that is left out. -/
def Fields.Covers (names : List String) : (fs : Fields) → fs.Val → Prop
  | .nil, _ => True
  | .cons name need shape rest, (v, vs) =>
    (name ∈ names ∨ need.leavesOut shape v = true) ∧ rest.Covers names vs

/-- Whether the members say everything of a record, and each of them once. -/
structure Fields.Told (fs : Fields) (v : fs.Val) (members : List (String × Json)) : Prop where
  distinct : (members.map Prod.fst).Nodup
  admits : ∀ member ∈ members, fs.Admits v member.1 member.2
  covers : fs.Covers (members.map Prod.fst) v

/-- What is known of the fields of a record when the members of some names have been read. -/
def Fields.seen (names : List String) : (fs : Fields) → fs.Val → fs.Slots
  | .nil, _ => ()
  | .cons name _ _ rest, (v, vs) => (if name ∈ names then some v else none, rest.seen names vs)

theorem Fields.seen_nil (fs : Fields) (v : fs.Val) : fs.seen [] v = fs.blank := by
  induction fs using Fields.keys.induct with
  | case1 => rfl
  | case2 name need shape rest ih =>
    obtain ⟨v, vs⟩ := v
    rw [Fields.seen, if_neg List.not_mem_nil, ih]
    rfl

/-- A name that no field has tells nothing. -/
theorem Fields.seen_concat {fs : Fields} {key : String} (h : key ∉ fs.keys) (names : List String)
    (v : fs.Val) : fs.seen (names ++ [key]) v = fs.seen names v := by
  induction fs using Fields.keys.induct with
  | case1 => rfl
  | case2 name need shape rest ih =>
    obtain ⟨v, vs⟩ := v
    rw [Fields.keys, List.mem_cons, not_or] at h
    have same : name ∈ names ++ [key] ↔ name ∈ names := by simp [Ne.symm h.1]
    rw [Fields.seen, Fields.seen, ih h.2]
    simp only [same]
    rfl

/-- When all that is needed has been seen the value is complete, whatever else was passed over. -/
theorem Fields.complete_seen {fs : Fields} {v : fs.Val} {names : List String}
    (covers : fs.Covers names v) : fs.complete (fs.seen names v) = .ok v := by
  induction fs using Fields.keys.induct with
  | case1 => rfl
  | case2 name need shape rest ih =>
    obtain ⟨v, vs⟩ := v
    obtain ⟨told, covers⟩ := covers
    have slot : (if name ∈ names then some v else none).or (need.whenUnnamed shape) = some v := by
      by_cases named : name ∈ names
      · rw [if_pos named]
        rfl
      · rw [if_neg named, Option.none_or, Need.whenUnnamed_of_leavesOut (told.resolve_left named)]
    rw [Fields.seen, Fields.complete]
    simp only [slot, ih covers]
    rfl

section

variable {fs : Fields} {depth : Nat} {v : fs.Val} {rest : Octets}

/-- One more member: the field of its name is known, or it is passed over. -/
theorem Fields.readMember_seen (plain : fs.isPlain = true) (deep : fs.height ≤ depth) {key : String}
    {value : Json} (admits : fs.Admits v key value) {names : List String} (fresh : key ∉ names)
    (ends : Ends rest) :
    fs.readMember depth key (fs.seen names v) (0x3a :: (encoded value.chars ++ rest)) =
      .ok (fs.seen (names ++ [key]) v, rest) := by
  induction fs using Fields.keys.induct with
  | case1 =>
    have skipped : skipValue (encoded value.chars ++ rest) = .ok rest := admits rest ends
    rw [Fields.readMember, readColon_cons]
    simp only [skipped]
    rfl
  | case2 name need shape fields ih =>
    obtain ⟨v, vs⟩ := v
    rw [Fields.isPlain, Bool.and_eq_true, Bool.and_eq_true, Bool.not_eq_true'] at plain
    obtain ⟨⟨unnamed, plain⟩, others⟩ := plain
    rw [Fields.height] at deep
    rw [Fields.Admits] at admits
    by_cases same : key = name
    · subst same
      rw [if_pos rfl] at admits
      have apart : key ∉ fields.keys := by simpa using unnamed
      have known : key ∈ names ++ [key] := by simp
      have read := Shape.read_chars_tree shape plain depth (by omega) v rest ends
      rw [Fields.seen, Fields.seen, if_neg fresh, if_pos known, Fields.seen_concat apart, admits]
      exact Fields.readMember_cons _ read
    · rw [if_neg same] at admits
      have slot : name ∈ names ++ [key] ↔ name ∈ names := by simp [Ne.symm same]
      rw [Fields.seen, Fields.seen, Fields.readMember, if_neg same, ih others (by omega) admits]
      simp only [slot]
      rfl

/-- Members of distinct names lead to what they say, whatever has been read before. -/
theorem Fields.leads_seen (plain : fs.isPlain = true) (deep : fs.height ≤ depth)
    {members : List (String × Json)} (distinct : (members.map Prod.fst).Nodup)
    (admits : ∀ member ∈ members, fs.Admits v member.1 member.2) {names : List String}
    (fresh : ∀ member ∈ members, member.1 ∉ names) :
    Leads (fs.readMember depth) members (fs.seen names v)
      (fs.seen (names ++ members.map Prod.fst) v) := by
  induction members generalizing names with
  | nil =>
    rw [List.map_nil, List.append_nil]
    rfl
  | cons member members ih =>
    obtain ⟨key, value⟩ := member
    rw [List.map_cons, List.nodup_cons] at distinct
    obtain ⟨first, admits⟩ := List.forall_mem_cons.mp admits
    obtain ⟨unread, fresh⟩ := List.forall_mem_cons.mp fresh
    -- The names that were seen grow by this one, and no later member repeats it.
    have others : ∀ member ∈ members, member.1 ∉ names ++ [key] := by
      intro member hmember
      rw [List.mem_append, List.mem_singleton, not_or]
      refine ⟨fresh member hmember, ?_⟩
      rintro rfl
      exact distinct.1 (List.mem_map.mpr ⟨member, hmember, rfl⟩)
    have leads := ih distinct.2 admits others
    rw [List.map_cons, List.append_cons]
    exact ⟨_, fun rest ends => Fields.readMember_seen plain deep first unread ends, leads⟩

end

/-- A record is read from every object that says everything of it once, whatever else the object
says and in whatever order. -/
theorem Shape.ofDocument_object {title : String} {fs : Fields} {v : fs.Val}
    {members : List (String × Json)} (plain : fs.isPlain = true) (deep : fs.height < maxDepth)
    (told : fs.Told v members) :
    (Shape.record title fs).ofDocument (Text.octets (Json.object members).compact) = .ok v := by
  have low : fs.height ≤ maxDepth - 1 := by omega
  have leads := Fields.leads_seen plain low told.distinct told.admits fun _ _ => List.not_mem_nil
  rw [Fields.seen_nil, List.nil_append] at leads
  exact Shape.ofDocument_octets_compact
    (Shape.read_object leads (Fields.complete_seen told.covers))

end SchemaRegistry.Json
