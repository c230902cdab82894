import SchemaRegistry.Proofs.Json.Alike
import SchemaRegistry.Proofs.Json.Further
import SchemaRegistry.Proofs.Json.Tagged
import SchemaRegistry.Proofs.Json.Value
/-!
# Documents that are read are read back

What a reader makes of a document can be written and read again (`rereads_of_readTree`): it is
nested no deeper than the reader goes, its texts are read back, and its integers are because they
fit the words that integers are read as. Doubles are another matter. A numeral is read with more
than one rounding, so whether the numeral of a double leads back to it is asked of each double
(`ReadsBack`).

Being read back is said of the parts, so it holds as well of the tree with sorted members and of the
tree without some of them.
-/

set_option autoImplicit false

namespace SchemaRegistry.Json

open Text (encoded)

/-! ## Integers that are read are words -/

/-- Whether an integer that is read is a word. -/
def Wordly (read : Outcome Number) : Prop :=
  ∀ n left, read = .ok (.integer n, left) → IsWord n

theorem wordly_error {stop : Stop} : Wordly (.error stop) :=
  fun _ _ h => nomatch h

theorem wordly_double {x : Decimal.Binary64} {left : Octets} : Wordly (.ok (.double x, left)) :=
  fun _ _ h => nomatch h

/-- What is said of an integer at its end is all that has to be said of the reader that gives it. -/
theorem wordly_integer {n : Int} (word : IsWord n) {left : Octets} :
    Wordly (.ok (.integer n, left)) := by
  intro m rest h
  obtain ⟨same, -⟩ := Prod.mk.inj (Except.ok.inj h)
  rw [← Number.integer.inj same]
  exact word

/-- A numeral that is given by its parts is a double, and nothing is asked of doubles here. -/
theorem wordly_doubleOfParts (negative : Bool) (significand : Nat) (exponent : Int)
    (bs : Octets) : Wordly (doubleOfParts negative significand exponent bs) := by
  unfold doubleOfParts
  split
  · exact wordly_double
  · exact wordly_error

/-- The digits of an exponent end in a double or in an error, however many there are: an exponent
that is too large is zero or out of range before its last digit. -/
theorem wordly_readExponentDigits (negative : Bool) (significand : Nat) (start : Int)
    (raises : Bool) (exponent : Nat) (bs : Octets) :
    Wordly (readExponentDigits negative significand start raises exponent bs) := by
  induction bs generalizing exponent with
  | nil => exact wordly_doubleOfParts _ _ _ _
  | cons b bs ih =>
    rw [readExponentDigits]
    cases digit? b with
    | none => exact wordly_doubleOfParts _ _ _ _
    | some d =>
      simp only
      split
      · split
        · exact wordly_error
        · exact wordly_double
      · exact ih _

theorem wordly_readExponent (negative : Bool) (significand : Nat) (start : Int) (bs : Octets) :
    Wordly (readExponent negative significand start bs) := by
  unfold readExponent
  simp only
  split
  · exact wordly_error
  · split
    · exact wordly_error
    · exact wordly_readExponentDigits _ _ _ _ _ _

theorem wordly_readDoubleEnd (negative : Bool) (significand : Nat) (exponent : Int)
    (bs : Octets) : Wordly (readDoubleEnd negative significand exponent bs) := by
  unfold readDoubleEnd
  split
  · exact wordly_readExponent _ _ _ _
  · exact wordly_readExponent _ _ _ _
  · exact wordly_doubleOfParts _ _ _ _

/-- A point makes the numeral a double, whether the fraction is followed by an exponent or not. -/
theorem wordly_readFraction (negative : Bool) (significand : Nat) (exponent : Int)
    (bs : Octets) : Wordly (readFraction negative significand exponent bs) := by
  unfold readFraction
  simp only
  split
  · exact wordly_readDoubleEnd _ _ _ _
  · split
    · exact wordly_error
    · exact wordly_readDoubleEnd _ _ _ _

/-- A whole number that does not fit a word becomes a double, and the two tests of the reader are
the two ends of the words: below zero it must fit the signed ones, and else the unsigned ones. -/
theorem wordly_wholeNumber (negative : Bool) {significand : Nat}
    (fits : significand ≤ maxSignificand) (bs : Octets) :
    Wordly (wholeNumber negative significand bs) := by
  have limit : maxSignificand = 18446744073709551615 := rfl
  unfold wholeNumber
  split
  · exact wordly_integer ⟨by omega, by omega⟩
  · split
    · exact wordly_integer ⟨by omega, by omega⟩
    · exact wordly_doubleOfParts _ _ _ _

/-- Only where neither a point nor an exponent follows is the number an integer. -/
theorem wordly_readAfterWhole (negative : Bool) {significand : Nat}
    (fits : significand ≤ maxSignificand) (bs : Octets) :
    Wordly (readAfterWhole negative significand bs) := by
  unfold readAfterWhole
  split
  · exact wordly_readFraction _ _ _ _
  · exact wordly_readExponent _ _ _ _
  · exact wordly_readExponent _ _ _ _
  · exact wordly_wholeNumber _ fits _

/-- Digits that had to be dropped leave a double, since the integer is not known in full. -/
theorem wordly_readAfterLongWhole (negative : Bool) (significand dropped : Nat) (bs : Octets) :
    Wordly (readAfterLongWhole negative significand dropped bs) := by
  unfold readAfterLongWhole
  split
  · exact wordly_readFraction _ _ _ _
  · exact wordly_readExponent _ _ _ _
  · exact wordly_readExponent _ _ _ _
  · exact wordly_doubleOfParts _ _ _ _

/-- Digits are taken in only as long as the significand fits, so the bound need not be looked at
again behind the loop. -/
theorem takeDigits_le {significand : Nat} (fits : significand ≤ maxSignificand) (count : Nat)
    (bs : Octets) : (takeDigits significand count bs).1 ≤ maxSignificand := by
  induction bs generalizing significand count with
  | nil => exact fits
  | cons b bs ih =>
    rw [takeDigits]
    cases digit? b with
    | none => exact fits
    | some d =>
      simp only
      split
      · exact fits
      · exact ih (by omega) _

theorem digit?_lt {b : UInt8} {d : Nat} (h : digit? b = some d) : d < 10 := by
  unfold digit? at h
  split at h
  · rename_i range
    have high := UInt8.le_iff_toNat_le.mp range.2
    have nine : (0x39 : UInt8).toNat = 57 := rfl
    cases h
    omega
  · cases h

theorem wordly_readUnsigned (negative : Bool) (bs : Octets) :
    Wordly (readUnsigned negative bs) := by
  have limit : maxSignificand = 18446744073709551615 := rfl
  unfold readUnsigned
  split
  · exact wordly_error
  · split
    · exact wordly_error
    · split
      · exact wordly_error
      · exact wordly_readAfterWhole _ (by omega) _
    · rename_i d _ digit
      have small := digit?_lt digit
      simp only
      split
      · exact wordly_readAfterLongWhole _ _ _ _
      · exact wordly_readAfterWhole _ (takeDigits_le (by omega) _ _) _

/-- **Every integer that a numeral is read as is a word.** The sign is handed through to the end of
the numeral, where the number is made. -/
theorem wordly_readNumeral (bs : Octets) : Wordly (readNumeral bs) := by
  unfold readNumeral
  split
  · exact wordly_readUnsigned _ _
  · exact wordly_readUnsigned _ _

/-! ## Numbers -/

/-- Whether a double is read back from its numeral. -/
def ReadsBack (x : Decimal.Binary64) : Prop :=
  (readNumeral (encoded (doubleChars x))).toOption = some (.double x, [])

instance : DecidablePred ReadsBack :=
  fun _ => inferInstanceAs (Decidable (_ = _))

/-- Whether a number is read back from its numeral. -/
def Number.ReadsBack : Number → Prop
  | .integer n => IsWord n
  | .double x => Json.ReadsBack x

/-- Of an integer being a word is enough. Of a double being read back is what is assumed of it, but
as something that can be decided, without the error that might come instead. -/
theorem Number.ReadsBack.readNumeral_chars {n : Number} (h : n.ReadsBack) :
    readNumeral (encoded n.chars) = .ok (n, []) := by
  cases n with
  | integer n =>
    have read := readNumeral_integerChars h ends_nil
    rwa [List.append_nil] at read
  | double x =>
    change (readNumeral (encoded (doubleChars x))).toOption = _ at h
    change readNumeral (encoded (doubleChars x)) = _
    cases hread : readNumeral (encoded (doubleChars x)) with
    | error stop =>
      rw [hread] at h
      cases h
    | ok read =>
      rw [hread] at h
      rw [Option.some.inj h]

/-- Only where a sign or a digit stands a numeral is read. -/
theorem sign_or_digit_of_readNumeral {bs left : Octets} {n : Number}
    (h : readNumeral bs = .ok (n, left)) :
    ∃ b more, bs = b :: more ∧ (b = 0x2d ∨ (digit? b).isSome = true) := by
  cases bs with
  | nil => cases h
  | cons b more =>
    refine ⟨b, more, rfl, ?_⟩
    by_cases minus : b = 0x2d
    · exact Or.inl minus
    · refine Or.inr ?_
      unfold readNumeral at h
      split at h
      · rename_i same
        exact absurd (List.cons.inj same).1 minus
      · cases hdigit : digit? b with
        | none =>
          simp only [readUnsigned, hdigit] at h
          cases h
        | some d => rfl

/-! ## Trees that are read back -/

/-- Whether a tree is read back part by part, at most `depth` lists and objects deep. -/
inductive Rereads : Nat → Json → Prop
  | null {depth : Nat} : Rereads depth .null
  | bool {depth : Nat} (b : Bool) : Rereads depth (.bool b)
  | number {depth : Nat} {n : Number} : n.ReadsBack → Rereads depth (.number n)
  | text {depth : Nat} (s : String) : Rereads depth (.text s)
  | array {depth : Nat} {items : List Json} :
    (∀ v ∈ items, Rereads depth v) → Rereads (depth + 1) (.array items)
  | object {depth : Nat} {members : List (String × Json)} :
    (∀ m ∈ members, Rereads depth m.2) → Rereads (depth + 1) (.object members)

/-- A numeral is the only scalar whose reading looks at what comes behind it. -/
theorem isRead_number {depth : Nat} {n : Number} (h : n.ReadsBack) : IsRead depth (.number n) := by
  intro rest ends
  have whole := h.readNumeral_chars
  have read := further_readNumeral ends _ _ _ whole
  obtain ⟨b, more, hmore, hb⟩ := sign_or_digit_of_readNumeral whole
  have bracket : ∀ c : UInt8, ¬ (c = 0x2d ∨ (digit? c).isSome = true) → b ≠ c := by
    rintro c hc rfl
    exact hc hb
  have first := facts_of_sign_or_digit hb
  change readTree depth (encoded n.chars ++ rest) = _
  rw [hmore, List.cons_append] at read ⊢
  rw [readTree_scalar first.1 (bracket _ (by decide)) (bracket _ (by decide)), readScalar,
    skipBlanks_cons first.1]
  simp [first, hb, read, Except.map]

/-- No value begins with a blank or with the bracket that closes a list, so the loop over a list
always sees its items. -/
theorem Rereads.begins {depth : Nat} {v : Json} (h : Rereads depth v) : Begins v.chars := by
  cases h with
  | null => exact ⟨_, _, (by decide : encoded Json.null.chars = 0x6e :: nullTail), by decide⟩
  | bool b =>
    cases b with
    | false => exact ⟨0x66, encoded ['a', 'l', 's', 'e'], by decide, by decide⟩
    | true => exact ⟨0x74, encoded ['r', 'u', 'e'], by decide, by decide⟩
  | number back =>
    obtain ⟨b, more, hmore, hb⟩ := sign_or_digit_of_readNumeral back.readNumeral_chars
    have first := facts_of_sign_or_digit hb
    exact ⟨b, more, hmore, first.1, first.2.2.2.2.2⟩
  | text s =>
    have written := encoded_quotedChars s []
    rw [List.append_nil] at written
    exact ⟨_, _, written, by decide⟩
  | array => exact ⟨0x5b, _, by rw [Json.chars, Text.encoded_cons]; rfl, by decide⟩
  | object => exact ⟨0x7b, _, by rw [Json.chars, Text.encoded_cons]; rfl, by decide⟩

/-- **A tree that can be read back is read back**, by induction on what is known of its parts, at
the depth that is left for each of them. -/
theorem Rereads.isRead {depth : Nat} {v : Json} (h : Rereads depth v) : IsRead depth v := by
  induction h with
  | null => exact isRead_null
  | bool b => exact isRead_bool b
  | number back => exact isRead_number back
  | text s => exact isRead_text s
  | array items ih => exact isRead_array ih fun v hv => (items v hv).begins
  | object _ ih => exact isRead_object ih

/-- The document written of a tree is read as that tree. -/
theorem Rereads.parse_compact {v : Json} (h : Rereads maxDepth v) :
    parse (Text.octets v.compact) = .ok v := by
  have read := h.isRead [] ends_nil
  rw [List.append_nil] at read
  rw [Json.compact, Text.octets_ofList, parse, readWhole, read]
  rfl

/-- What is read back is told by how it is written. -/
theorem Rereads.compact_inj {v w : Json} (hv : Rereads maxDepth v) (hw : Rereads maxDepth w) :
    v.compact = w.compact ↔ v = w := by
  refine ⟨fun h => ?_, fun h => by rw [h]⟩
  have read := hv.parse_compact
  rw [h, hw.parse_compact] at read
  exact (Except.ok.inj read).symm

/-! ## Sorting and leaving out -/

/-- The two functions on lists of values are maps. They are written out only for the recursion to be
structural, and here every statement about them follows from the one about values. -/
theorem sortedItems_eq_map (items : List Json) : sortedItems items = items.map sorted := by
  induction items with
  | nil => rfl
  | cons v items ih => rw [sortedItems, ih, List.map_cons]

theorem itemsWithout_eq_map (names : List String) (items : List Json) :
    itemsWithout names items = items.map (without names) := by
  induction items with
  | nil => rfl
  | cons v items ih => rw [itemsWithout, ih, List.map_cons]

/-- Sorting moves members about and keeps them all, so the parts are read back as before. -/
theorem Rereads.sorted {depth : Nat} {v : Json} (h : Rereads depth v) : Rereads depth v.sorted := by
  induction h with
  | null => exact .null
  | bool b => exact .bool b
  | number back => exact .number back
  | text s => exact .text s
  | array _ ih =>
    refine .array fun v hv => ?_
    rw [sortedItems_eq_map] at hv
    obtain ⟨u, hu, rfl⟩ := List.mem_map.mp hv
    exact ih u hu
  | object _ ih =>
    refine .object fun m hm => ?_
    obtain ⟨n, hn, rfl⟩ := exists_of_mem_sortedMembers hm
    exact ih n hn

/-- Without some members there is less to read back. -/
theorem Rereads.without {depth : Nat} {v : Json} (h : Rereads depth v) (names : List String) :
    Rereads depth (v.without names) := by
  induction h with
  | null => exact .null
  | bool b => exact .bool b
  | number back => exact .number back
  | text s => exact .text s
  | array _ ih =>
    refine .array fun v hv => ?_
    rw [itemsWithout_eq_map] at hv
    obtain ⟨u, hu, rfl⟩ := List.mem_map.mp hv
    exact ih u hu
  | object _ ih =>
    refine .object fun m hm => ?_
    obtain ⟨n, hn, rfl⟩ := exists_of_mem_membersWithout hm
    exact ih n hn

/-! ## What readers read -/

mutual

/-- The doubles of a tree. -/
def doubles : Json → List Decimal.Binary64
  | .number (.double x) => [x]
  | .array items => itemDoubles items
  | .object members => memberDoubles members
  | _ => []

def itemDoubles : List Json → List Decimal.Binary64
  | [] => []
  | v :: items => v.doubles ++ itemDoubles items

def memberDoubles : List (String × Json) → List Decimal.Binary64
  | [] => []
  | (_, v) :: members => v.doubles ++ memberDoubles members

end

theorem doubles_subset_itemDoubles {items : List Json} {v : Json} (h : v ∈ items) :
    v.doubles ⊆ itemDoubles items := by
  induction items with
  | nil => cases h
  | cons w items ih =>
    rw [itemDoubles]
    rcases List.mem_cons.mp h with rfl | later
    · exact List.subset_append_left _ _
    · exact List.Subset.trans (ih later) (List.subset_append_right _ _)

theorem doubles_subset_memberDoubles {members : List (String × Json)} {m : String × Json}
    (h : m ∈ members) : m.2.doubles ⊆ memberDoubles members := by
  induction members with
  | nil => cases h
  | cons first members ih =>
    rw [memberDoubles]
    rcases List.mem_cons.mp h with rfl | later
    · exact List.subset_append_left _ _
    · exact List.Subset.trans (ih later) (List.subset_append_right _ _)

/-- What is known of each item is known of all that are read. -/
theorem forall_mem_of_readItems {α : Type} {item : Nat → Octets → Outcome α} {P : α → Prop}
    (known : ∀ i bs x rest, item i bs = .ok (x, rest) → P x) {steps index : Nat}
    {bs rest : Octets} {xs : List α} (h : readItems item steps index bs = .ok (xs, rest)) :
    ∀ x ∈ xs, P x := by
  induction steps generalizing index bs xs with
  | zero => cases h
  | succ steps ih =>
    rw [readItems] at h
    split at h
    · cases h
    · cases h
      exact fun _ hx => absurd hx List.not_mem_nil
    · split at h
      · cases h
      · rename_i hx
        split at h
        · cases h
        · rename_i hxs
          cases h
          exact List.forall_mem_cons.mpr ⟨known _ _ _ _ hx, ih hxs⟩

/-- What every member keeps is so when all are read. -/
theorem invariant_of_foldMembers {σ : Type} {step : String → σ → Octets → Outcome σ}
    {P : σ → Prop}
    (keeps : ∀ key state bs next rest, P state → step key state bs = .ok (next, rest) → P next)
    {steps : Nat} {first : Bool} {state last : σ} {bs rest : Octets} (begins : P state)
    (h : foldMembers step steps first state bs = .ok (last, rest)) : P last := by
  induction steps generalizing first state bs with
  | zero => cases h
  | succ steps ih =>
    rw [foldMembers] at h
    split at h
    · cases h
    · cases h
      exact begins
    · split at h
      · cases h
      · split at h
        · cases h
        · rename_i hstep
          exact ih (keeps _ _ _ _ _ begins hstep) h

/-- A scalar is read back if it is no double, or one that is. -/
theorem rereads_of_readScalar {depth : Nat} {expected : String} {bs rest : Octets} {v : Json}
    (h : readScalar expected bs = .ok (v, rest)) (back : ∀ x ∈ v.doubles, ReadsBack x) :
    Rereads depth v := by
  -- Each branch wraps what a smaller reader returns.
  have mapped : ∀ {α : Type} {o : Except Stop α} {f : α → Json × Octets},
      o.map f = .ok (v, rest) → ∃ x, o = .ok x ∧ f x = (v, rest) := by
    intro α o f hmap
    cases o with
    | error stop => cases hmap
    | ok x => exact ⟨x, rfl, Except.ok.inj hmap⟩
  unfold readScalar at h
  split at h
  · cases h
  · split_ifs at h
    · obtain ⟨_, -, same⟩ := mapped h
      cases same
      exact .null
    · obtain ⟨_, -, same⟩ := mapped h
      cases same
      exact .bool true
    · obtain ⟨_, -, same⟩ := mapped h
      cases same
      exact .bool false
    · obtain ⟨⟨s, _⟩, -, same⟩ := mapped h
      cases same
      exact .text s
    · obtain ⟨⟨n, _⟩, read, same⟩ := mapped h
      cases same
      refine .number ?_
      -- An integer that was read fits its word. For a double the hypothesis is what makes it come
      -- back.
      cases n with
      | integer n => exact wordly_readNumeral _ _ _ read
      | double x => exact back x List.mem_cons_self
    · cases h
    · cases h
    · cases h

/-- What is read is read back, if its doubles are. -/
theorem rereads_of_readTree {depth : Nat} {bs rest : Octets} {v : Json}
    (h : readTree depth bs = .ok (v, rest)) (back : ∀ x ∈ v.doubles, ReadsBack x) :
    Rereads depth v := by
  induction depth generalizing bs rest v with
  | zero =>
    unfold readTree at h
    split at h
    · cases h
    · cases h
    · exact rereads_of_readScalar h back
  | succ depth ih =>
    unfold readTree at h
    split at h
    · -- The items are read one level further down.
      simp only at h
      split at h
      · cases h
      · rename_i hitems
        cases h
        have read := forall_mem_of_readItems
          (P := fun v => ∃ bs rest, readTree depth bs = .ok (v, rest))
          (fun _ bs _ rest hv => ⟨bs, rest, hv⟩) hitems
        refine .array fun v hv => ?_
        obtain ⟨bs, rest, hread⟩ := read v hv
        exact ih hread fun x hx => back x (doubles_subset_itemDoubles hv hx)
    · simp only at h
      split at h
      · cases h
      · rename_i hmembers
        cases h
        -- Members are collected one by one, and each of them was read one level further down.
        have read := invariant_of_foldMembers
          (P := fun members => ∀ m ∈ members, ∃ bs rest, readTree depth bs = .ok (m.2, rest))
          ?_ (fun _ hm => absurd hm List.not_mem_nil) hmembers
        · refine .object fun m hm => ?_
          obtain ⟨bs, rest, hread⟩ := read m hm
          exact ih hread fun x hx => back x (doubles_subset_memberDoubles hm hx)
        · intro key members bs next rest known hstep
          split at hstep
          · cases hstep
          · split at hstep
            · cases hstep
            · rename_i hvalue
              cases hstep
              exact List.forall_mem_append.mpr ⟨known, by simpa using ⟨_, _, hvalue⟩⟩
    · exact rereads_of_readScalar h back

/-- A document is read at the greatest depth, and nothing in what was read is nested deeper than the
reader went. -/
theorem rereads_of_parse {document : Octets} {v : Json} (h : parse document = .ok v)
    (back : ∀ x ∈ v.doubles, ReadsBack x) : Rereads maxDepth v := by
  unfold parse readWhole at h
  split at h
  · cases h
  · rename_i hread
    split at h
    · cases h
      exact rereads_of_readTree hread back
    · cases h

end SchemaRegistry.Json
