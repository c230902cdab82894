import Mathlib.Tactic.SplitIfs
import SchemaRegistry.Json.Printer
import SchemaRegistry.Json.Reader
import SchemaRegistry.Proofs.Text.Octets
/-!
# Scalars are read back

What is written of a text or a whole number is read back as the same. A quoted text says itself
where it ends. A numeral does not: it ends where something else begins, so it is read back in front
of what may follow a value, and a numeral that could go on behind it would be another one.
-/

set_option autoImplicit false

namespace SchemaRegistry.Json

open Text (encoded)

/-- Whether nothing follows, or what may follow a value in a list or an object. -/
def Ends (rest : Octets) : Prop :=
  ∀ b ∈ rest.head?, b = 0x2c ∨ b = 0x5d ∨ b = 0x7d

@[simp] theorem ends_nil : Ends [] := by
  simp [Ends]

@[simp] theorem ends_cons {b : UInt8} {rest : Octets} :
    Ends (b :: rest) ↔ b = 0x2c ∨ b = 0x5d ∨ b = 0x7d := by
  simp [Ends]

/-- Where no blank stands in front nothing is skipped. What is written never begins with one. -/
theorem skipBlanks_cons {b : UInt8} (h : isBlank b = false) (rest : Octets) :
    skipBlanks (b :: rest) = b :: rest := by
  rw [skipBlanks, List.dropWhile_cons_of_neg (by simp [h])]

/-! ## Texts -/

/-- Whether an octet stands for itself between quotation marks. -/
def StandsForItself (b : UInt8) : Prop :=
  0x20 ≤ b ∧ b ≠ 0x22 ∧ b ≠ 0x5c

theorem readTextOctets_cons {b : UInt8} (h : StandsForItself b) (taken rest : Octets) :
    readTextOctets taken (b :: rest) = readTextOctets (b :: taken) rest := by
  obtain ⟨printable, unquoted, unescaped⟩ := h
  rw [readTextOctets]
  · rw [if_neg (by simpa using printable)]
  all_goals simp_all

/-- A run of octets that stand for themselves is taken whole. The octets that are taken pile up in
reverse order, as the reader has them. -/
theorem readTextOctets_append {bs : Octets} (h : ∀ b ∈ bs, StandsForItself b)
    (taken rest : Octets) :
    readTextOctets taken (bs ++ rest) = readTextOctets (bs.reverse ++ taken) rest := by
  induction bs generalizing taken with
  | nil => rfl
  | cons b bs ih =>
    obtain ⟨first, others⟩ := List.forall_mem_cons.mp h
    rw [List.cons_append, readTextOctets_cons first, ih others, List.reverse_cons,
      List.append_assoc]
    rfl

/-- The escapes of control characters have two digits that vary, and both are read back. -/
theorem hexDigit?_digitChar :
    ∀ n < 16, hexDigit? (UInt8.ofNat (Nat.digitChar n).toNat) = some n := by
  decide

/-- A control character that is written with its number. -/
theorem readTextOctets_controlEscape {c : Char} (h : c.toNat < 0x20) (taken rest : Octets) :
    readTextOctets taken (encoded (controlEscape c) ++ rest) =
      readTextOctets ((String.utf8EncodeChar c).reverse ++ taken) rest := by
  have ascii : ∀ n < 16, String.utf8EncodeChar (Nat.digitChar n) =
      [UInt8.ofNat (Nat.digitChar n).toNat] := by
    decide
  have high : c.toNat / 16 < 16 := by omega
  have low : c.toNat % 16 < 16 := by omega
  have written : encoded (controlEscape c) =
      [0x5c, 0x75, 0x30, 0x30, UInt8.ofNat (Nat.digitChar (c.toNat / 16)).toNat,
        UInt8.ofNat (Nat.digitChar (c.toNat % 16)).toNat] := by
    have slash : String.utf8EncodeChar '\\' = [0x5c] := by decide
    have letter : String.utf8EncodeChar 'u' = [0x75] := by decide
    have zero : String.utf8EncodeChar '0' = [0x30] := by decide
    simp [controlEscape, Text.encoded_cons, ascii _ high, ascii _ low, slash, letter, zero]
  have quad : hexQuad? 0x30 0x30 (UInt8.ofNat (Nat.digitChar (c.toNat / 16)).toNat)
      (UInt8.ofNat (Nat.digitChar (c.toNat % 16)).toNat) = some c.toNat := by
    have zero : hexDigit? 0x30 = some 0 := by decide
    simp only [hexQuad?, zero, hexDigit?_digitChar _ high, hexDigit?_digitChar _ low, bind,
      Option.bind, pure, Option.some.injEq]
    omega
  have leading : isLeadingSurrogate c.toNat = false := by
    simp only [isLeadingSurrogate, Bool.and_eq_false_iff, decide_eq_false_iff_not]
    omega
  have trailing : isTrailingSurrogate c.toNat = false := by
    simp only [isTrailingSurrogate, Bool.and_eq_false_iff, decide_eq_false_iff_not]
    omega
  rw [written]
  simp only [List.cons_append, List.nil_append, readTextOctets, quad, leading, trailing,
    Bool.false_eq_true, if_false, codePointReversed, Char.ofNat_toNat]

/-- An escape of one letter. -/
theorem readTextOctets_escape {b c : UInt8} (h : simpleEscape? b = some c) (hb : b ≠ 0x75)
    (taken rest : Octets) :
    readTextOctets taken (0x5c :: b :: rest) = readTextOctets (c :: taken) rest := by
  rw [readTextOctets, h]
  · intros
    simp_all
  · intros
    simp_all

/-- Every character is read back from what is written for it: by a case for each escape, by its two
digits for a control character, and else octet by octet. -/
theorem readTextOctets_quotedChar (c : Char) (taken rest : Octets) :
    readTextOctets taken (encoded (quotedChar c) ++ rest) =
      readTextOctets ((String.utf8EncodeChar c).reverse ++ taken) rest := by
  -- The escapes of one letter differ only in the letter.
  have escape : ∀ {letter : Char} (b d : UInt8), String.utf8EncodeChar letter = [b] →
      String.utf8EncodeChar c = [d] → simpleEscape? b = some d → b ≠ 0x75 →
      readTextOctets taken (encoded ['\\', letter] ++ rest) =
        readTextOctets ((String.utf8EncodeChar c).reverse ++ taken) rest := by
    intro letter b d hletter hc hescape hb
    have slash : String.utf8EncodeChar '\\' = [0x5c] := by decide
    rw [Text.encoded_cons, Text.encoded_cons, slash, hletter, hc]
    exact readTextOctets_escape hescape hb taken rest
  rw [quotedChar]
  split_ifs with hquote hslash hline hreturn htab hback hform hcontrol
  · subst hquote
    exact escape 0x22 0x22 (by decide) (by decide) (by decide) (by decide)
  · subst hslash
    exact escape 0x5c 0x5c (by decide) (by decide) (by decide) (by decide)
  · subst hline
    exact escape 0x6e 0x0a (by decide) (by decide) (by decide) (by decide)
  · subst hreturn
    exact escape 0x72 0x0d (by decide) (by decide) (by decide) (by decide)
  · subst htab
    exact escape 0x74 0x09 (by decide) (by decide) (by decide) (by decide)
  · subst hback
    exact escape 0x62 0x08 (by decide) (by decide) (by decide) (by decide)
  · subst hform
    exact escape 0x66 0x0c (by decide) (by decide) (by decide) (by decide)
  · exact readTextOctets_controlEscape hcontrol taken rest
  · -- What is left are the characters that are written as they are. Two cases are needed because an
    -- octet of a longer character could be taken for an ASCII one.
    have itself : ∀ b ∈ String.utf8EncodeChar c, StandsForItself b := by
      intro b hb
      by_cases ascii : c.toNat < 0x80
      · rw [Text.utf8EncodeChar_of_ascii ascii, List.mem_singleton] at hb
        have value : b.toNat = c.toNat := by
          rw [hb, UInt8.toNat_ofNat', Nat.mod_eq_of_lt (by omega)]
        refine ⟨UInt8.le_iff_toNat_le.mpr ?_, ?_, ?_⟩
        · change 0x20 ≤ b.toNat
          omega
        · rintro rfl
          exact hquote (Char.toNat_inj.mp value.symm)
        · rintro rfl
          exact hslash (Char.toNat_inj.mp value.symm)
      · have high := Text.le_of_mem_utf8EncodeChar (Nat.le_of_not_lt ascii) hb
        refine ⟨UInt8.le_iff_toNat_le.mpr ?_, ?_, ?_⟩
        · change 0x20 ≤ b.toNat
          omega
        · rintro rfl
          change 0x80 ≤ 0x22 at high
          omega
        · rintro rfl
          change 0x80 ≤ 0x5c at high
          omega
    rw [Text.encoded_cons, Text.encoded_nil, List.append_nil]
    exact readTextOctets_append itself taken rest

/-- A text ends at the first quotation mark that stands for itself, and within a text every mark is
escaped. -/
theorem readTextOctets_quoted (cs : List Char) (taken rest : Octets) :
    readTextOctets taken (encoded (cs.flatMap quotedChar) ++ 0x22 :: rest) =
      .ok (taken.reverse ++ encoded cs, rest) := by
  induction cs generalizing taken with
  | nil => simp [readTextOctets]
  | cons c cs ih =>
    rw [List.flatMap_cons, Text.encoded_append, List.append_assoc, readTextOctets_quotedChar, ih,
      Text.encoded_cons, List.reverse_append, List.reverse_reverse, List.append_assoc]

/-- A quoted text, behind its opening mark. -/
theorem readText_quoted (s : String) (rest : Octets) :
    readText (encoded (s.toList.flatMap quotedChar) ++ 0x22 :: rest) = .ok (s, rest) := by
  have whole : Text.ofOctets? (encoded s.toList) = some s := by
    rw [← Text.octets_ofList, String.ofList_toList, Text.ofOctets?_octets]
  rw [readText, readTextOctets_quoted]
  simp only [List.reverse_nil, List.nil_append, whole]

/-- The octets of a quoted text have the mark in front, where readers look at it first. -/
theorem encoded_quotedChars (s : String) (rest : Octets) :
    encoded (quotedChars s) ++ rest =
      0x22 :: (encoded (s.toList.flatMap quotedChar) ++ 0x22 :: rest) := by
  have mark : String.utf8EncodeChar '"' = [0x22] := by decide
  simp [quotedChars, Text.encoded_cons, mark]

/-- What type the reader expects plays no part: it appears only in the words of an error. -/
theorem readScalar_text (expected s : String) (rest : Octets) :
    readScalar expected (encoded (quotedChars s) ++ rest) = .ok (.text s, rest) := by
  rw [encoded_quotedChars, readScalar, skipBlanks_cons (by decide)]
  simp [readText_quoted, Except.map]

/-! ## Numerals -/

/-- A zero may not be followed by another digit, and where a value ends none follows. -/
theorem startsWithDigit_of_ends {rest : Octets} (h : Ends rest) : startsWithDigit rest = false := by
  rcases rest with _ | ⟨b, rest⟩
  · rfl
  · rcases ends_cons.mp h with rfl | rfl | rfl <;> rfl

/-- A digit is one octet, and that octet is read as the digit. -/
theorem digit?_of_isDigit {c : Char} (h : c.isDigit = true) :
    String.utf8EncodeChar c = [UInt8.ofNat c.toNat] ∧
      digit? (UInt8.ofNat c.toNat) = some (c.toNat - '0'.toNat) ∧ c.toNat - '0'.toNat < 10 := by
  rw [Char.isDigit, Bool.and_eq_true, decide_eq_true_eq, decide_eq_true_eq] at h
  have low : 0x30 ≤ c.toNat := h.1
  have high : c.toNat ≤ 0x39 := h.2
  have value : (UInt8.ofNat c.toNat).toNat = c.toNat := by
    rw [UInt8.toNat_ofNat', Nat.mod_eq_of_lt (by omega)]
  have zero : '0'.toNat = 0x30 := rfl
  refine ⟨Text.utf8EncodeChar_of_ascii (by omega), ?_, by omega⟩
  have inRange : 0x30 ≤ UInt8.ofNat c.toNat ∧ UInt8.ofNat c.toNat ≤ 0x39 := by
    rw [UInt8.le_iff_toNat_le, UInt8.le_iff_toNat_le, value]
    exact ⟨low, high⟩
  rw [digit?, if_pos inRange, value]
  rfl

/-- Reading on digit by digit the number never becomes smaller, which bounds all numbers on the way
by the last. -/
theorem le_ofDigitChars (cs : List Char) (n : Nat) : n ≤ Nat.ofDigitChars 10 cs n := by
  induction cs generalizing n with
  | nil => exact Nat.le_refl n
  | cons c cs ih =>
    rw [Nat.ofDigitChars_cons]
    have further := ih (10 * n + (c.toNat - '0'.toNat))
    omega

/-- Digits are taken to their end if the number fits. -/
theorem takeDigits_append {cs : List Char} (digits : ∀ c ∈ cs, c.isDigit = true)
    {significand : Nat} (fits : Nat.ofDigitChars 10 cs significand ≤ maxSignificand) {rest : Octets}
    (stops : startsWithDigit rest = false) (count : Nat) :
    takeDigits significand count (encoded cs ++ rest) =
      (Nat.ofDigitChars 10 cs significand, count + cs.length, rest) := by
  induction cs generalizing significand count with
  | nil =>
    rcases rest with _ | ⟨b, rest⟩
    · rfl
    · rw [startsWithDigit, Option.isSome_eq_false_iff, Option.isNone_iff_eq_none] at stops
      simp [takeDigits, stops]
  | cons c cs ih =>
    obtain ⟨first, others⟩ := List.forall_mem_cons.mp digits
    obtain ⟨written, hdigit, -⟩ := digit?_of_isDigit first
    rw [Nat.ofDigitChars_cons] at fits ⊢
    have room := le_ofDigitChars cs (10 * significand + (c.toNat - '0'.toNat))
    have hfits : ¬ maxSignificand < significand * 10 + (c.toNat - '0'.toNat) := by omega
    rw [Text.encoded_cons, written, List.singleton_append, List.cons_append, takeDigits, hdigit]
    simp only [hfits, if_false]
    rw [Nat.mul_comm significand, ih others fits, List.length_cons]
    congr 2
    omega

/-- The digits of a number do not begin with a zero, unless it is zero. -/
theorem exists_toDigits {n : Nat} (h : 0 < n) :
    ∃ c cs, Nat.toDigits 10 n = c :: cs ∧ c.isDigit = true ∧ (∀ d ∈ cs, d.isDigit = true) ∧
      c.toNat - '0'.toNat ≠ 0 := by
  have digits : ∀ d ∈ Nat.toDigits 10 n, d.isDigit = true := fun d hd =>
    Nat.isDigit_of_mem_toDigits (by decide) (by decide) hd
  have begins : ∃ c cs, Nat.toDigits 10 n = c :: cs ∧ c.toNat - '0'.toNat ≠ 0 := by
    clear digits
    induction n using Nat.strongRecOn with
    | ind n ih =>
      by_cases small : n < 10
      · have zero : '0'.toNat = 0x30 := rfl
        refine ⟨n.digitChar, [], Nat.toDigits_of_lt_base small, ?_⟩
        rw [Nat.toNat_digitChar_of_lt_ten small]
        omega
      · obtain ⟨c, cs, hcs, hc⟩ := ih (n / 10) (by omega) (by omega)
        refine ⟨c, cs ++ [(n % 10).digitChar], ?_, hc⟩
        rw [Nat.toDigits_of_base_le (by decide) (by omega), hcs, List.cons_append]
  obtain ⟨c, cs, hcs, hc⟩ := begins
  rw [hcs, List.forall_mem_cons] at digits
  exact ⟨c, cs, hcs, digits.1, digits.2, hc⟩

/-- Where a value ends there is neither a point nor an exponent, so the digits were the whole
numeral. -/
theorem readAfterWhole_of_ends {rest : Octets} (h : Ends rest) (negative : Bool)
    (significand : Nat) :
    readAfterWhole negative significand rest = wholeNumber negative significand rest := by
  rcases rest with _ | ⟨b, rest⟩
  · rfl
  · rcases ends_cons.mp h with rfl | rfl | rfl <;> rfl

/-- The digits of a number that fits are taken in one by one without any of them being dropped, and
make up the number again. -/
theorem readUnsigned_toDigits {n : Nat} (fits : n ≤ maxSignificand) (negative : Bool)
    {rest : Octets} (h : Ends rest) :
    readUnsigned negative (encoded (Nat.toDigits 10 n) ++ rest) = wholeNumber negative n rest := by
  have stops := startsWithDigit_of_ends h
  by_cases positive : 0 < n
  · -- The first digit is read alone since it must not be zero.
    obtain ⟨c, cs, hcs, hdigit, digits, hc⟩ := exists_toDigits positive
    have value : Nat.ofDigitChars 10 cs (c.toNat - '0'.toNat) = n := by
      have whole : Nat.ofDigitChars 10 (Nat.toDigits 10 n) 0 = n :=
        Nat.ofDigitChars_toDigits (by decide) (by decide)
      rwa [hcs, Nat.ofDigitChars_cons, Nat.mul_zero, Nat.zero_add] at whole
    obtain ⟨written, hread, -⟩ := digit?_of_isDigit hdigit
    obtain ⟨d, hd⟩ := Nat.exists_eq_succ_of_ne_zero hc
    have taken := takeDigits_append digits (by rw [value]; exact fits) stops 0
    rw [hcs, Text.encoded_cons, written, List.singleton_append, List.cons_append, readUnsigned,
      hread, hd]
    rw [hd] at taken value
    simp only [taken, stops, Bool.false_eq_true, if_false, value]
    exact readAfterWhole_of_ends h negative n
  · obtain rfl : n = 0 := by omega
    have zero : encoded (Nat.toDigits 10 0) = [0x30] := by decide
    rw [zero, List.singleton_append, readUnsigned]
    have digit : digit? 0x30 = some 0 := by decide
    simp only [digit, stops, Bool.false_eq_true, if_false]
    exact readAfterWhole_of_ends h negative 0

/-- A numeral begins with a digit, by which the reader knows what it has before it. -/
theorem exists_encoded_toDigits (n : Nat) :
    ∃ b more d, encoded (Nat.toDigits 10 n) = b :: more ∧ digit? b = some d := by
  rcases hdigits : Nat.toDigits 10 n with _ | ⟨c, cs⟩
  · exact absurd hdigits Nat.toDigits_ne_nil
  · have digit : c.isDigit = true := by
      refine Nat.isDigit_of_mem_toDigits (b := 10) (n := n) (by decide) (by decide) ?_
      rw [hdigits]
      exact List.mem_cons_self
    obtain ⟨written, hread, -⟩ := digit?_of_isDigit digit
    refine ⟨_, encoded cs, _, ?_, hread⟩
    rw [Text.encoded_cons, written, List.singleton_append]

/-- The reader asks for blanks, words and quotation marks before it asks for a digit, and none of
these is one. -/
theorem facts_of_digit {b : UInt8} (h : (digit? b).isSome = true) :
    isBlank b = false ∧ b ≠ 0x6e ∧ b ≠ 0x74 ∧ b ≠ 0x66 ∧ b ≠ 0x22 ∧ b ≠ 0x5d := by
  have range : 0x30 ≤ b.toNat ∧ b.toNat ≤ 0x39 := by
    rw [digit?] at h
    split at h
    · rename_i inside
      rwa [UInt8.le_iff_toNat_le, UInt8.le_iff_toNat_le] at inside
    · simp at h
  have apart : ∀ d : UInt8, d.toNat < 0x30 ∨ 0x39 < d.toNat → b ≠ d := by
    rintro d hd rfl
    omega
  refine ⟨?_, apart _ (by decide), apart _ (by decide), apart _ (by decide), apart _ (by decide),
    apart _ (by decide)⟩
  simp [isBlank, apart 0x20 (by decide), apart 0x09 (by decide), apart 0x0a (by decide),
    apart 0x0d (by decide)]

/-- Whether a whole number is read as one. -/
def IsWord (n : Int) : Prop :=
  -9223372036854775808 ≤ n ∧ n ≤ 18446744073709551615

/-- **An integer that fits a word is read back**, with its sign. A zero has none, so no integer is
written as a zero with a sign, which would be read as a double. -/
theorem readNumeral_integerChars {n : Int} (word : IsWord n) {rest : Octets} (h : Ends rest) :
    readNumeral (encoded (integerChars n) ++ rest) = .ok (.integer n, rest) := by
  obtain ⟨low, high⟩ := word
  have limit : maxSignificand = 18446744073709551615 := rfl
  by_cases negative : n < 0
  · have sign : String.utf8EncodeChar '-' = [0x2d] := by decide
    rw [integerChars, if_pos negative, List.singleton_append, Text.encoded_cons, sign,
      List.singleton_append, List.cons_append, readNumeral,
      readUnsigned_toDigits (by omega) true h, wholeNumber, if_neg (by simp), if_pos (by omega)]
    have value : -(n.natAbs : Int) = n := by omega
    rw [value]
  · have value : (n.natAbs : Int) = n := by omega
    obtain ⟨b, more, d, hmore, digit⟩ := exists_encoded_toDigits n.natAbs
    -- A numeral without a sign starts with a digit, which no minus is.
    have unsigned :
        readNumeral (b :: (more ++ rest)) = readUnsigned false (b :: (more ++ rest)) := by
      rw [readNumeral.eq_def]
      split
      · rename_i minus
        obtain rfl : b = 0x2d := (List.cons.inj minus).1
        simp [digit?] at digit
      · rfl
    rw [integerChars, if_neg negative, List.nil_append, hmore, List.cons_append, unsigned,
      ← List.cons_append, ← hmore, readUnsigned_toDigits (by omega) false h, wholeNumber,
      if_pos (by simp), value]

/-- An integer begins with its sign or with a digit. -/
theorem exists_encoded_integerChars (n : Int) :
    ∃ b more, encoded (integerChars n) = b :: more ∧ (b = 0x2d ∨ (digit? b).isSome = true) := by
  by_cases negative : n < 0
  · have sign : String.utf8EncodeChar '-' = [0x2d] := by decide
    refine ⟨0x2d, encoded (Nat.toDigits 10 n.natAbs), ?_, Or.inl rfl⟩
    rw [integerChars, if_pos negative, List.singleton_append, Text.encoded_cons, sign,
      List.singleton_append]
  · obtain ⟨b, more, d, hmore, digit⟩ := exists_encoded_toDigits n.natAbs
    refine ⟨b, more, ?_, Or.inr (by rw [digit]; rfl)⟩
    rw [integerChars, if_neg negative, List.nil_append, hmore]

theorem facts_of_sign_or_digit {b : UInt8} (h : b = 0x2d ∨ (digit? b).isSome = true) :
    isBlank b = false ∧ b ≠ 0x6e ∧ b ≠ 0x74 ∧ b ≠ 0x66 ∧ b ≠ 0x22 ∧ b ≠ 0x5d := by
  rcases h with rfl | digit
  · decide
  · exact facts_of_digit digit

/-- To read a scalar is to read a numeral, once its first octet has been told from all others. -/
theorem readScalar_integer {n : Int} (word : IsWord n) (expected : String) {rest : Octets}
    (h : Ends rest) :
    readScalar expected (encoded (integerChars n) ++ rest) = .ok (.number (.integer n), rest) := by
  obtain ⟨b, more, hmore, hb⟩ := exists_encoded_integerChars n
  have read := readNumeral_integerChars word h
  have first := facts_of_sign_or_digit hb
  rw [hmore, List.cons_append] at read ⊢
  rw [readScalar, skipBlanks_cons first.1]
  simp [first, hb, read, Except.map]

theorem readScalar_bool (expected : String) (b : Bool) (rest : Octets) :
    readScalar expected (encoded (Json.bool b).chars ++ rest) = .ok (.bool b, rest) := by
  rcases b with _ | _
  · have written : encoded (Json.bool false).chars = [0x66, 0x61, 0x6c, 0x73, 0x65] := by decide
    rw [written]
    rfl
  · have written : encoded (Json.bool true).chars = [0x74, 0x72, 0x75, 0x65] := by decide
    rw [written]
    rfl

end SchemaRegistry.Json
