import SchemaRegistry.Text.Octets
/-!
# Octets of characters

Two texts of the same octets are the same. An ASCII character is one octet, and every octet of a
longer form has its highest bit set, so a reader that looks for ASCII octets never mistakes a part
of another character for one. The zero octet in particular stands for the zero character and for
nothing else, and texts without that character can be told apart where they are joined by zero
octets.
-/

set_option autoImplicit false

namespace SchemaRegistry.Text

/-- A text is told by its octets, so whatever looks at octets only looks at all of the text. -/
theorem octets_injective {s t : String} (h : octets s = octets t) : s = t := by
  have hs := ofOctets?_octets s
  rw [h, ofOctets?_octets] at hs
  exact (Option.some.inj hs).symm

/-- The octets of a text are those of its characters, one character after the other. -/
theorem octets_eq_flatMap (s : String) : octets s = s.toList.flatMap String.utf8EncodeChar := by
  have encoded : s.toByteArray = s.toList.utf8Encode := String.utf8Encode_toList.symm
  rw [octets, encoded, List.utf8Encode, List.data_toByteArray]

/-- The UTF-8 form of characters. -/
def encoded (cs : List Char) : Octets :=
  cs.flatMap String.utf8EncodeChar

@[simp] theorem encoded_nil : encoded [] = [] := rfl

@[simp] theorem encoded_append (cs ds : List Char) :
    encoded (cs ++ ds) = encoded cs ++ encoded ds :=
  List.flatMap_append

theorem encoded_cons (c : Char) (cs : List Char) :
    encoded (c :: cs) = String.utf8EncodeChar c ++ encoded cs :=
  List.flatMap_cons

/-- Whether characters are made a text first makes no difference to their octets. -/
theorem octets_ofList (cs : List Char) : octets (String.ofList cs) = encoded cs := by
  rw [octets_eq_flatMap, String.toList_ofList, encoded]

/-- An ASCII character is one octet. -/
theorem utf8EncodeChar_of_ascii {c : Char} (h : c.toNat < 0x80) :
    String.utf8EncodeChar c = [UInt8.ofNat c.toNat] := by
  have low : c.val.toNat ≤ 0x7f := by
    change c.toNat ≤ 0x7f
    omega
  simp only [String.utf8EncodeChar, low, if_true]
  rfl

/-- The octets of any other character are above ASCII. -/
theorem le_of_mem_utf8EncodeChar {c : Char} (h : 0x80 ≤ c.toNat) {b : UInt8}
    (hb : b ∈ String.utf8EncodeChar c) : 0x80 ≤ b.toNat := by
  have high : ¬ c.val.toNat ≤ 0x7f := by
    change ¬ c.toNat ≤ 0x7f
    omega
  have octet : ∀ {n : Nat}, 0x80 ≤ n % 256 → 0x80 ≤ (UInt8.ofNat n).toNat := by
    intro n hn
    rwa [UInt8.toNat_ofNat']
  simp only [String.utf8EncodeChar, high, if_false] at hb
  split at hb
  · simp only [List.mem_cons, List.not_mem_nil, or_false] at hb
    rcases hb with rfl | rfl <;> exact octet (by omega)
  · split at hb
    · simp only [List.mem_cons, List.not_mem_nil, or_false] at hb
      rcases hb with rfl | rfl | rfl <;> exact octet (by omega)
    · simp only [List.mem_cons, List.not_mem_nil, or_false] at hb
      rcases hb with rfl | rfl | rfl | rfl <;> exact octet (by omega)

/-- The octet of an ASCII character. -/
def asciiOctet (c : Char) : UInt8 :=
  UInt8.ofNat c.toNat

theorem utf8EncodeChar_eq_asciiOctet {c : Char} (h : c.toNat < 0x80) :
    String.utf8EncodeChar c = [asciiOctet c] :=
  utf8EncodeChar_of_ascii h

theorem toNat_asciiOctet {c : Char} (h : c.toNat < 0x80) : (asciiOctet c).toNat = c.toNat := by
  rw [asciiOctet, UInt8.toNat_ofNat', Nat.mod_eq_of_lt (by omega)]

/-- The octet of an ASCII character is below all octets of other characters. -/
theorem asciiOctet_lt {c : Char} (h : c.toNat < 0x80) : asciiOctet c < 0x80 := by
  rw [UInt8.lt_iff_toNat_lt, toNat_asciiOctet h]
  exact h

/-- ASCII characters are told by their octets, so that a test on octets is a test on characters. -/
theorem asciiOctet_inj {c a : Char} (hc : c.toNat < 0x80) (ha : a.toNat < 0x80) :
    asciiOctet c = asciiOctet a ↔ c = a := by
  rw [← UInt8.toNat_inj, toNat_asciiOctet hc, toNat_asciiOctet ha, Char.toNat_inj]

/-- A text begins with the octet of an ASCII character only if it begins with the character. -/
theorem head?_encoded_iff {a : Char} (ha : a.toNat < 0x80) {cs : List Char} :
    (encoded cs).head? = some (asciiOctet a) ↔ cs.head? = some a := by
  cases cs with
  | nil => simp
  | cons c cs =>
    rw [encoded_cons, List.head?_cons, Option.some_inj]
    by_cases ascii : c.toNat < 0x80
    · rw [utf8EncodeChar_eq_asciiOctet ascii, List.singleton_append, List.head?_cons,
        Option.some_inj]
      exact asciiOctet_inj ascii ha
    · constructor
      · intro h
        have first : asciiOctet a ∈ String.utf8EncodeChar c := by
          cases hbs : String.utf8EncodeChar c with
          | nil => exact absurd hbs String.utf8EncodeChar_ne_nil
          | cons b bs =>
            rw [hbs] at h
            exact List.mem_cons.mpr (Or.inl (Option.some.inj h).symm)
        have high := le_of_mem_utf8EncodeChar (Nat.le_of_not_lt ascii) first
        rw [toNat_asciiOctet ha] at high
        omega
      · rintro rfl
        exact absurd ha ascii

/-- Behind the first octet of a character there is no ASCII. -/
theorem exists_utf8EncodeChar (c : Char) :
    ∃ b more, String.utf8EncodeChar c = b :: more ∧ ∀ d ∈ more, 0x80 ≤ d := by
  by_cases ascii : c.toNat < 0x80
  · exact ⟨asciiOctet c, [], utf8EncodeChar_eq_asciiOctet ascii, nofun⟩
  · obtain ⟨b, more, written⟩ := List.exists_cons_of_ne_nil (String.utf8EncodeChar_ne_nil (c := c))
    refine ⟨b, more, written, fun d hd => ?_⟩
    refine le_of_mem_utf8EncodeChar (Nat.le_of_not_lt ascii) ?_
    rw [written]
    exact List.mem_cons_of_mem b hd

/-- No octet of a character is zero, except that of the zero character. By it a zero octet separates
texts that have no zero in them. -/
theorem ne_zero_of_mem_utf8EncodeChar {c : Char} (hc : c ≠ '\x00') {b : UInt8}
    (hb : b ∈ String.utf8EncodeChar c) : b ≠ 0 := by
  have positive : c.toNat ≠ 0 := by
    intro zero
    exact hc (Char.ext (UInt32.toNat_inj.mp zero))
  rintro rfl
  by_cases ascii : c.toNat < 0x80
  · rw [utf8EncodeChar_of_ascii ascii, List.mem_singleton] at hb
    have value := congrArg UInt8.toNat hb
    rw [UInt8.toNat_ofNat'] at value
    change 0 = c.toNat % 256 at value
    omega
  · have high := le_of_mem_utf8EncodeChar (Nat.le_of_not_lt ascii) hb
    change 0x80 ≤ 0 at high
    omega

/-- A text without the zero character has no zero octet. -/
theorem zero_notMem_octets {s : String} (h : '\x00' ∉ s.toList) : 0 ∉ octets s := by
  rw [octets_eq_flatMap, List.mem_flatMap]
  rintro ⟨c, hc, hb⟩
  apply ne_zero_of_mem_utf8EncodeChar _ hb rfl
  rintro rfl
  exact h hc

theorem eq_of_mem_head?_cons {α : Type} {a b : α} {rest : List α} (h : b ∈ (a :: rest).head?) :
    b = a := by
  rw [List.head?_cons, Option.mem_some_iff] at h
  exact h.symm

/-- Where the first run of members of one kind ends is told by the sequence. -/
theorem append_inj_of_forall {α : Type} {p : α → Prop} {xs ys us vs : List α}
    (hx : ∀ x ∈ xs, p x) (hy : ∀ y ∈ ys, p y) (hu : ∀ u ∈ us.head?, ¬ p u)
    (hv : ∀ v ∈ vs.head?, ¬ p v) (h : xs ++ us = ys ++ vs) : xs = ys ∧ us = vs := by
  induction xs generalizing ys with
  | nil =>
    cases ys with
    | nil => exact ⟨rfl, h⟩
    | cons y ys =>
      rw [List.nil_append, List.cons_append] at h
      exact absurd (hy y List.mem_cons_self)
        (hu y (by rw [h, List.head?_cons, Option.mem_some_iff]))
  | cons x xs ih =>
    cases ys with
    | nil =>
      rw [List.nil_append, List.cons_append] at h
      exact absurd (hx x List.mem_cons_self)
        (hv x (by rw [← h, List.head?_cons, Option.mem_some_iff]))
    | cons y ys =>
      rw [List.cons_append, List.cons_append] at h
      obtain ⟨first, rest⟩ := List.cons.inj h
      obtain ⟨same, behind⟩ := ih (fun z hz => hx z (List.mem_cons_of_mem _ hz))
        (fun z hz => hy z (List.mem_cons_of_mem _ hz)) rest
      exact ⟨by rw [first, same], behind⟩

/-- Where two sequences are cut at their first separator, or at their end if they have none, is told
by the sequences. -/
theorem append_inj_of_notMem {α : Type} {a : α} {xs ys us vs : List α} (hx : a ∉ xs) (hy : a ∉ ys)
    (hu : ∀ u ∈ us.head?, u = a) (hv : ∀ v ∈ vs.head?, v = a) (h : xs ++ us = ys ++ vs) :
    xs = ys ∧ us = vs :=
  append_inj_of_forall (p := (· ≠ a)) (fun _ hmem => ne_of_mem_of_not_mem hmem hx)
    (fun _ hmem => ne_of_mem_of_not_mem hmem hy) (fun u hmem => not_not_intro (hu u hmem))
    (fun v hmem => not_not_intro (hv v hmem)) h

end SchemaRegistry.Text
