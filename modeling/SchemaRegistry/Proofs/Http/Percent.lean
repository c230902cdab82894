import SchemaRegistry.Http.Percent
import SchemaRegistry.Proofs.Text.Octets
/-!
# Percent encoding is undone by decoding

Decoding gives back what was encoded if percent signs are among what is encoded; one that is let
through would be taken for the start of a triple. An encoded text holds no character of the set but
percent signs, so that what separates the parts of an address cannot come from within a part.
-/

set_option autoImplicit false

namespace SchemaRegistry.Percent

open Json (hexDigit?)
open Text (encoded encoded_append encoded_cons)

/-- The character of a digit in a triple. -/
def tripleDigit (n : Nat) : Char :=
  (Nat.digitChar n).toUpper

theorem hexDigit?_tripleDigit : ∀ n < 16,
    String.utf8EncodeChar (tripleDigit n) = [UInt8.ofNat (tripleDigit n).toNat] ∧
      hexDigit? (UInt8.ofNat (tripleDigit n).toNat) = some n := by
  decide

/-! ## Decoding -/

/-- Nothing but the percent sign has a meaning to the reader. -/
theorem decode_cons_of_ne {b : UInt8} (h : b ≠ 0x25) (rest : Octets) :
    decode (b :: rest) = b :: decode rest := by
  rw [decode]
  rintro x y more rfl
  exact absurd rfl h

theorem decode_append_of_notMem {bs : Octets} (h : 0x25 ∉ bs) (rest : Octets) :
    decode (bs ++ rest) = bs ++ decode rest := by
  induction bs with
  | nil => rfl
  | cons b bs ih =>
    rw [List.mem_cons, not_or] at h
    rw [List.cons_append, decode_cons_of_ne (Ne.symm h.1), ih h.2, List.cons_append]

theorem decode_triple (b : UInt8) (rest : Octets) :
    decode (encoded (triple b) ++ rest) = b :: decode rest := by
  have high : b.toNat / 16 < 16 := by
    have := b.toNat_lt
    omega
  have low : b.toNat % 16 < 16 := by omega
  obtain ⟨highOctet, highDigit⟩ := hexDigit?_tripleDigit _ high
  obtain ⟨lowOctet, lowDigit⟩ := hexDigit?_tripleDigit _ low
  have sign : String.utf8EncodeChar '%' = [0x25] := by decide
  have written : encoded (triple b) = [0x25, UInt8.ofNat (tripleDigit (b.toNat / 16)).toNat,
      UInt8.ofNat (tripleDigit (b.toNat % 16)).toNat] := by
    change encoded ['%', tripleDigit (b.toNat / 16), tripleDigit (b.toNat % 16)] = _
    simp [encoded_cons, sign, highOctet, lowOctet]
  have value : UInt8.ofNat (b.toNat / 16 * 16 + b.toNat % 16) = b := by
    rw [Nat.div_add_mod', UInt8.ofNat_toNat]
  rw [written]
  simp only [List.cons_append, List.nil_append, decode, highDigit, lowDigit, value]

theorem decode_flatMap_triple (bs rest : Octets) :
    decode (encoded (bs.flatMap triple) ++ rest) = bs ++ decode rest := by
  induction bs with
  | nil => rfl
  | cons b bs ih =>
    rw [List.flatMap_cons, encoded_append, List.append_assoc, decode_triple, ih, List.cons_append]

/-- What is encoded is given back. -/
theorem decode_encode {isSpecial : Char → Bool} (percent : isSpecial '%' = true) (cs : List Char) :
    decode (encoded (encode isSpecial cs)) = encoded cs := by
  induction cs with
  | nil => rfl
  | cons c cs ih =>
    rw [encode, List.flatMap_cons, encoded_append, encoded_cons]
    split
    · -- What is let through is one octet and no percent sign, so it starts no triple.
      rename_i plain
      simp only [Bool.and_eq_true, decide_eq_true_eq, Bool.not_eq_true'] at plain
      have notSign : 0x25 ∉ String.utf8EncodeChar c := by
        rw [Text.utf8EncodeChar_of_ascii plain.1, List.mem_singleton]
        intro sign
        have value := congrArg UInt8.toNat sign
        rw [UInt8.toNat_ofNat', Nat.mod_eq_of_lt (by omega)] at value
        obtain rfl : c = '%' := Char.toNat_inj.mp value.symm
        simp [percent] at plain
      rw [encoded_cons, Text.encoded_nil, List.append_nil, decode_append_of_notMem notSign]
      exact congrArg _ ih
    · rw [decode_flatMap_triple]
      exact congrArg _ ih

/-! ## What encoded text holds -/

theorem mem_triple {b : UInt8} {c : Char} (h : c ∈ triple b) :
    c ∈ "%0123456789ABCDEF".toList := by
  have digit : ∀ n < 16, tripleDigit n ∈ "%0123456789ABCDEF".toList := by decide
  change c ∈ ['%', tripleDigit (b.toNat / 16), tripleDigit (b.toNat % 16)] at h
  simp only [List.mem_cons, List.not_mem_nil, or_false] at h
  rcases h with rfl | rfl | rfl
  · decide
  · have := b.toNat_lt
    exact digit _ (by omega)
  · exact digit _ (by omega)

/-- A character of encoded text is let through, or part of a triple. -/
theorem mem_encode {isSpecial : Char → Bool} {cs : List Char} {c : Char}
    (h : c ∈ encode isSpecial cs) :
    c ∈ cs ∧ isSpecial c = false ∨ c ∈ "%0123456789ABCDEF".toList := by
  obtain ⟨d, hd, hc⟩ := List.mem_flatMap.mp h
  split at hc
  · rename_i plain
    rw [List.mem_singleton] at hc
    subst hc
    simp only [Bool.and_eq_true, Bool.not_eq_true'] at plain
    exact Or.inl ⟨hd, plain.2⟩
  · obtain ⟨b, -, hb⟩ := List.mem_flatMap.mp hc
    exact Or.inr (mem_triple hb)

/-- A character that is to be escaped does not stand in what is written, unless it is one of those
that escapes are made of. By it no mark gets into an address that would divide it. -/
theorem notMem_encode {isSpecial : Char → Bool} {c : Char} (special : isSpecial c = true)
    (apart : c ∉ "%0123456789ABCDEF".toList) (cs : List Char) : c ∉ encode isSpecial cs := by
  intro h
  rcases mem_encode h with ⟨-, plain⟩ | part
  · rw [special] at plain
    cases plain
  · exact apart part

theorem encode_ne_nil {isSpecial : Char → Bool} {cs : List Char} (h : cs ≠ []) :
    encode isSpecial cs ≠ [] := by
  obtain ⟨c, more, rfl⟩ := List.exists_cons_of_ne_nil h
  rw [encode, List.flatMap_cons]
  intro empty
  have first := (List.append_eq_nil_iff.mp empty).1
  split at first
  · cases first
  · obtain ⟨b, bs, hbs⟩ := List.exists_cons_of_ne_nil (String.utf8EncodeChar_ne_nil (c := c))
    rw [hbs, List.flatMap_cons] at first
    cases first

end SchemaRegistry.Percent
